import ToStringGen.Json
import ToStringGen.Json.Writer
import ToStringGen.Manifest

/-!
# Manifests in JSON

A manifest is written in JSON with all its keys, and read from it with any of the optional ones
absent.
-/

namespace ToStringGen.Manifest

/-- Reads a manifest from a JSON text. -/
def ofJson? (text : Text.Bytes) : Option Manifest :=
  (Json.parse? text).bind (ofDatum? Datum.json)

/-- The JSON text of a manifest. -/
def toJson? (manifest : Manifest) : Option Text.Bytes :=
  Json.write? manifest.toDatum

end ToStringGen.Manifest
