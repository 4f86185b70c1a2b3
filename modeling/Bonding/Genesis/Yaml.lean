import Bonding.Genesis
import Bonding.Yaml.Decode

/-!
Genesis files: a genesis written in YAML. The text is read as a mapping of strings, written as
JSON, and decoded as a genesis document, so numbers and amounts take their JSON forms; an empty
file or a null document is the empty genesis. An error names the stage that failed.
-/

namespace Bonding

def Genesis.ofYaml (text : String) : Except String Genesis := do
  let doc ← (Yaml.readStringMap text).mapError ("parse genesis: " ++ ·)
  let j ← (match doc with
    | none => (.ok Json.null : Except String Json)
    | some ms => (Yaml.Value.strMap ms).toJson).mapError ("convert genesis: " ++ ·)
  (Genesis.decode j).mapError ("decode genesis: " ++ ·)

end Bonding
