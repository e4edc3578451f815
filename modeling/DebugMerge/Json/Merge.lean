/-
  DebugMerge.Json.Merge
  ─────────────────────
  **Laying one JSON document over another.**

  Objects are merged field by field; anything else that lies above replaces what
  lies below.  Fields keep their place, and new fields come last.

  Main definitions
    • `merge`, `mergeFields`
-/
import DebugMerge.Json.Value

namespace DebugMerge.Json

mutual

/-- The document `base` with `overlay` laid over it. -/
def merge (base : Json) : Json → Json
  | object above =>
      match base with
      | object below => object (mergeFields below above)
      | _ => object above
  | other => other

/-- The fields `below` with others laid over them. -/
def mergeFields (below : List (String × Json)) : List (String × Json) → List (String × Json)
  | [] => below
  | (name, v) :: rest =>
      match lookup? name below with
      | some old => mergeFields (setField name (merge old v) below) rest
      | none => mergeFields (setField name v below) rest

end

end DebugMerge.Json
