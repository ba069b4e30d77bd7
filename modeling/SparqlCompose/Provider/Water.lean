import SparqlCompose.Provider.Counts
import SparqlCompose.Provider.Sources

namespace SparqlCompose.Provider

def water : Provider where
  kind := "WaterDataProviderModule"
  name := "Water Data Provider"
  space := Vocabulary.water
  short := "water"
  label := "Water"
  siteClass := "WaterSite"
  flag := "isWater"
  graph := Vocabulary.waterMeasurements
  regulations :=
    [(Vocabulary.waterRegulations ++ "EPA-regulation.owl", "EPA Regulation"),
     (Vocabulary.waterRegulations ++ "ca-regulation.owl", "CA Regulation"),
     (Vocabulary.waterRegulations ++ "ma-regulation.owl", "MA Regulation"),
     (Vocabulary.waterRegulations ++ "ny-regulation.owl", "NY Regulation"),
     (Vocabulary.waterRegulations ++ "ri-regulation.owl", "RI Regulation")]
  dataTypes :=
    [⟨"clean-water", "Clean Water", some "clean-water.png"⟩,
     ⟨"clean-facility", "Facility", some "facility.png"⟩,
     ⟨"polluted-water", "Polluted Water", some "polluted-water.png"⟩,
     ⟨"polluted-facility", "Polluted Facility", some "polluted-facility.png"⟩]
  sources := knownSources
  methods := [("get_site_counts", siteCounts), ("query_for_data_sources", listSources)]

end SparqlCompose.Provider
