import SwiftConnections.Plugin.Response
import SwiftConnections.Proofs.Proto.WireReading

namespace SwiftConnections

/-- The values of all fields with this number that hold a number. -/
def Field.numbers (n : Nat) (fields : List Field) : List Nat :=
  fields.filterMap fun
    | number m value => if m = n then some value else none
    | _ => none

/-- The number of a field that is given at most once: the last of several counts. -/
def Field.number? (n : Nat) (fields : List Field) : Option Nat :=
  (numbers n fields).getLast?

/-- What is found in the bytes of a response. -/
structure ReadResponse where
  error : Option Text
  supportedFeatures : Option Nat
  /-- The name and the content of each file. -/
  files : List (Option Text × Option Text)
  deriving DecidableEq

def ReadResponse.ofFields (fields : List Field) : ReadResponse where
  error := Field.text? 1 fields
  supportedFeatures := Field.number? 2 fields
  files := (Field.messages 15 fields).map fun inner => (Field.text? 1 inner, Field.text? 15 inner)

/-- A response read by the rules of the wire. -/
def ReadResponse.ofBytes? (bytes : Bytes) : Option ReadResponse :=
  (Field.decode? .response bytes).map ofFields

namespace Response

theorem fields_fit (response : Response) : Field.FitAll Field.depthLimit .response response.fields := by
  refine ⟨⟨rfl, by decide⟩, Field.fitAll_iff.mpr fun field hm => ?_⟩
  obtain ⟨file, -, rfl⟩ := List.mem_map.mp hm
  exact ⟨.responseFile, rfl, by decide, rfl, rfl, trivial⟩

theorem readResponse_fields (response : Response) :
    ReadResponse.ofFields response.fields =
      ⟨none, some supportedFeatures, response.files.map fun file => (some file.name, some file.content)⟩ := by
  have htexts : Field.texts 1 response.fields = [] := by
    simp [fields, Field.texts]
  have hnumbers : Field.numbers 2 response.fields = [supportedFeatures] := by
    simp [fields, Field.numbers]
  have hmessages : Field.messages 15 response.fields =
      response.files.map fun file => [.text 1 file.name, .text 15 file.content] := by
    rw [fields, Field.messages, List.filterMap_cons_none rfl, List.filterMap_map, ← List.filterMap_eq_map]
    rfl
  rw [ReadResponse.ofFields, Field.text?, htexts, Field.number?, hnumbers, hmessages, List.map_map]
  rfl

/-- The bytes of a response give back the response. Lengths on the wire have 64 bits. -/
theorem read_encode {response : Response} (h : response.encode.length < 2 ^ 64) :
    ReadResponse.ofBytes? response.encode =
      some ⟨none, some supportedFeatures, response.files.map fun file => (some file.name, some file.content)⟩ := by
  have hfields := Field.decodeAll?_encodeAll response.fields response.fields_fit h
  have hdecode : Field.decode? .response response.encode = some response.fields := hfields
  rw [ReadResponse.ofBytes?, hdecode, Option.map_some, readResponse_fields]

end Response

end SwiftConnections
