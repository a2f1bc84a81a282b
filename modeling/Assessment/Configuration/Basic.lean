import Assessment.Interchange.Reading

/-!
# Configuration

How many variants of a template are tried, and the seed of the random source: `EngineConfig` with
`TemplateConfig` and `RandomConfig`. Every field has a default, and no others are allowed. The same
rule reads a configuration from JSON and, through `ofToml?`, from a file.
-/

namespace Assessment

/-- The configuration of a run. -/
structure Configuration where
  maxAttempts : Nat
  /-- The seed of the random source; without it every run draws its own numbers. -/
  seed : Option Nat
deriving DecidableEq, Repr

namespace Configuration

/-- The attempts at a template unless told otherwise. -/
def defaultAttempts : Nat := 100

/-- The configuration without any setting. -/
def default : Configuration := ⟨defaultAttempts, none⟩

open Interchange Interchange.Reading

/-- Reads the settings for templates. -/
def templateSettings : Decoder Nat :=
  record ["max_attempts"]
    (closed ["max_attempts"] (optional "max_attempts" defaultAttempts (natural UInt32.size)))

/-- Reads the settings for the random source. -/
def randomSettings : Decoder (Option Nat) :=
  record ["seed"] (closed ["seed"] (option "seed" (natural UInt64.size)))

/-- Reads a configuration. -/
def ofJson : Decoder Configuration :=
  record ["template", "random"]
    (closed ["template", "random"]
      (Configuration.mk <$> optional "template" defaultAttempts templateSettings
        <*> optional "random" none randomSettings))

/-- The JSON form of a configuration. -/
def toJson (c : Configuration) : Json :=
  Json.ofFields
    [("template", .obj [("max_attempts", .int c.maxAttempts)]),
      ("random", .obj [("seed", (c.seed.map fun n => Json.int n).getD .null)])]

end Configuration

end Assessment
