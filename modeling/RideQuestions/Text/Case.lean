import RideQuestions.Text.CaseTable

/-! Lower-case and capital forms. Lower-casing maps the capital sigma by its context: at the end
of a word it becomes the final small sigma.
-/

namespace RideQuestions.Text

def isCased (c : Char) : Bool :=
  Ranges.contains casedRanges c.toNat

def isCaseIgnorable (c : Char) : Bool :=
  Ranges.contains caseIgnorableRanges c.toNat

/-- The code point of the small letter, searched in runs sorted by their first code point. -/
def smallCode : List CaseRun → Nat → Nat
  | [], code => code
  | run :: rest, code =>
      if code < run.first then code
      else if code ≤ run.last then
        if (code - run.first) % run.step = 0 then (Int.ofNat code + run.shift).toNat else code
      else smallCode rest code

/-- The small letter of a character, out of context. -/
def smallLetter (c : Char) : Char :=
  Char.ofNat (smallCode caseRuns c.toNat)

private def capitalSigma : Char := Char.ofNat 0x3a3
private def finalSigma : Char := Char.ofNat 0x3c2
private def capitalDottedI : Char := Char.ofNat 0x130

/-- Whether a letter with case follows, looking through case-ignorable characters. -/
def casedFollows (rest : List Char) : Bool :=
  match rest.dropWhile isCaseIgnorable with
  | [] => false
  | c :: _ => isCased c

/-- Lower-cases a text; `casedBefore` tells whether a letter with case precedes it, looking
through case-ignorable characters. -/
def lowerChars : Bool → List Char → List Char
  | _, [] => []
  | casedBefore, c :: rest =>
      let casedHere := if isCaseIgnorable c then casedBefore else isCased c
      let small :=
        if c = capitalSigma then
          [if casedBefore && !casedFollows rest then finalSigma else smallLetter c]
        else if c = capitalDottedI then
          ['i', Char.ofNat 0x307]
        else
          [smallLetter c]
      small ++ lowerChars casedHere rest

/-- The lower-case form of a text. -/
def lower (s : String) : String :=
  String.ofList (lowerChars false s.toList)

/-- The capital form of a character where that form is made of letters A to Z, and the character
itself otherwise. -/
def plainCapitals (c : Char) : List Char :=
  let code := c.toNat
  if 97 ≤ code ∧ code ≤ 122 then [Char.ofNat (code - 32)]
  else if code = 0xdf then ['S', 'S']
  else if code = 0x131 then ['I']
  else if code = 0x17f then ['S']
  else if code = 0xfb00 then ['F', 'F']
  else if code = 0xfb01 then ['F', 'I']
  else if code = 0xfb02 then ['F', 'L']
  else if code = 0xfb03 then ['F', 'F', 'I']
  else if code = 0xfb04 then ['F', 'F', 'L']
  else if code = 0xfb05 ∨ code = 0xfb06 then ['S', 'T']
  else [c]

/-- The capital form of a text, for comparison with words made of letters A to Z: two texts that
differ only in letters without such a form stay different. -/
def plainUpper (s : String) : String :=
  String.ofList (s.toList.flatMap plainCapitals)

end RideQuestions.Text
