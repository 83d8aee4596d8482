import RecordStore.Path

/-! Patching a record: each member of the patch sets the value at the path its key spells. On the
way a missing member, or one that is no object, becomes an empty object; other members stay as they
are, and a replaced member keeps its place. A record that is no object takes no patch. -/
namespace RecordStore

/-- An object as it is, and an empty object for anything else. -/
def Json.asObject : Option Json → Json
  | some (.object members) => .object members
  | _ => .object []

def Json.setAt (new : Json) : Path → Json → Json
  | [], record => record
  | [key], .object members => .object (Members.insert key new members)
  | key :: rest, .object members =>
    .object (Members.insert key
      (Json.setAt new rest (Json.asObject (Members.find? key members))) members)
  | _, record => record

/-- Applies the members of a patch in their order; a patch that is no object changes nothing. -/
def Json.patched (patch record : Json) : Json :=
  match patch with
  | .object members =>
    members.foldl (fun record (key, value) => Json.setAt value (Path.ofText key) record) record
  | _ => record

end RecordStore
