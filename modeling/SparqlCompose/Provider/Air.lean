import SparqlCompose.Provider.Basic

namespace SparqlCompose.Provider

def air : Provider where
  kind := "AirDataProviderModule"
  name := "Air Data Provider"
  space := Vocabulary.air
  short := "air"
  label := "Air"
  siteClass := "AirSite"
  flag := "isAir"
  graph := Vocabulary.airMeasurements
  regulations :=
    [("http://was.tw.rpi.edu/ontology/semanteco/regulations/EPA-air-regulation.owl",
      "EPA Regulation")]
  dataTypes :=
    [⟨"clean-air", "Clean Air", some "clean-air.png"⟩,
     ⟨"clean-air-facility", "Clean Air Facility", some "clean-air-facility.png"⟩,
     ⟨"polluted-air", "Polluted Air", some "polluted-air.png"⟩,
     ⟨"polluted-air-facility", "Polluted Air Facility", some "polluted-air-facility.png"⟩]
  sources := fun _ _ => pure [("http://sparql.tw.rpi.edu/source/epa-gov", "epa.gov")]
  methods := []

end SparqlCompose.Provider
