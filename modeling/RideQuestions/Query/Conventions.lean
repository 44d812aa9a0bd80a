import RideQuestions.Cache
import RideQuestions.Matching.Score

/-! The names that the ride store uses for its facts, stations and weather, and the tuning of the
question compiler.
-/

namespace RideQuestions.Query

/-- The fixed table and column names of the ride domain. -/
structure Conventions where
  factTable : String := "trips"
  factStartColumn : String := "started_at"
  factEndColumn : String := "ended_at"
  factStationKey : String := "start_station_id"
  factGenderColumn : String := "rider_gender"
  stationTable : String := "stations"
  stationKey : String := "station_id"
  stationNameColumn : String := "station_name"
  weatherTable : String := "daily_weather"
  weatherDateColumn : String := "weather_date"
  precipitationColumn : String := "precipitation_mm"
  locationPattern : String := "%Congress Avenue%"

structure CompilerConfig where
  minSimilarity : Number.Binary64 := Matching.defaultMinScore
  /-- The year of a first week whose question names none. -/
  referenceYear : Int := 2025
  cacheCapacity : Capacity := ⟨1024, by decide⟩
  conventions : Conventions := {}

end RideQuestions.Query
