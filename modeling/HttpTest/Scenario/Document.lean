import HttpTest.Scenario.Suite
import HttpTest.Toml.Document

/-!
# Suites as TOML

The shape of the documents that suites are written in. Names that mean nothing are wrong, so that
misspelled ones are noticed.
-/

namespace HttpTest

open Toml (Field Schema Decoder)

def Criterion.schema : Schema Criterion where
  name := "Check"
  strict := true
  fields :=
    [.of "name" .inArray .string fun s c => { c with name := some s },
     .of "path" .never .string fun s c => { c with path := s },
     .of "equal" .inArray .value fun v c => { c with equal := some v },
     .of "not_equal" .inArray .value fun v c => { c with notEqual := some v },
     .of "contains" .inArray .value fun v c => { c with contains := some v },
     .of "not_contains" .inArray .value fun v c => { c with notContains := some v },
     .of "one_of" .inArray (.list .value) fun vs c => { c with oneOf := some vs },
     .of "not_one_of" .inArray (.list .value) fun vs c => { c with notOneOf := some vs },
     .of "len" .inArray (.natural .size) fun n c => { c with length := some n },
     .of "empty" .never .boolean fun b c => { c with empty := b },
     .of "not_empty" .never .boolean fun b c => { c with notEmpty := b }]

def Criterion.decode : Decoder Criterion := schema.decode blank

def Expectation.schema : Schema Expectation where
  name := "Expectation"
  strict := true
  fields :=
    [.of "status" .inArray Criterion.decode fun c e => { e with status := some c },
     .of "header" .inArray Criterion.decode fun c e => { e with header := some c },
     .of "headers" .inArray Criterion.decode fun c e => { e with headers := some c },
     .of "body" .inArray Criterion.decode fun c e => { e with body := some c },
     .of "json" .inArray Criterion.decode fun c e => { e with json := some c }]

def Expectation.decode : Decoder Expectation := schema.decode blank

def Defaults.schema : Schema Defaults where
  name := "Defaults"
  strict := true
  fields :=
    [.of "headers" .never (.dictionary .string) fun h d => { d with headers := h },
     .of "expect" .never (.list Expectation.decode) fun es d => { d with expectations := es }]

def Scenario.schema : Schema Scenario where
  name := "Scenario"
  strict := true
  fields :=
    [.of "description" .always .string fun s c => { c with description := s },
     .of "method" .always .string fun s c => { c with method := s },
     .of "url" .always .string fun s c => { c with url := s },
     .of "headers" .never (.dictionary .string) fun h c => { c with headers := h },
     .of "body" .inArray .string fun s c => { c with body := some s },
     .of "json" .inArray .value fun v c => { c with json := some v },
     .of "clear" .never (.list (.choice ClearTarget.names)) fun ts c => { c with clear := ts },
     .of "expect" .never (.list Expectation.decode) fun es c => { c with expectations := es }]

def Scenario.decode : Decoder Scenario := schema.decode ⟨"", "", "", [], none, none, [], []⟩

def Suite.schema : Schema Suite where
  name := "ScenarioFile"
  strict := true
  fields :=
    [.of "base_url" .inArray .string fun url s => { s with baseUrl := some url },
     .of "defaults" .never (Defaults.schema.decode ⟨[], []⟩) fun d s => { s with defaults := d },
     .of "scenario" .never (.list Scenario.decode) fun cs s => { s with scenarios := cs }]

def Suite.ofText (text : String) : Except Toml.DocumentError Suite :=
  Toml.decode (schema.decode ⟨none, ⟨[], []⟩, []⟩) text

end HttpTest
