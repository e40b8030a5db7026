import CleanRoom.Governance.CleanRoomEndpoints
import CleanRoom.Library.Joining

/-!
# Queries of a request

`parseRequestQuery` splits a query at `&` and each part at `=`. A value that it gives holds
neither of the two, and a query that is put together from such values gives them back.
-/

namespace CleanRoom.Governance

open JavaScript Joining

/-- No character of the text ends a value of a query. -/
def plainInQuery (text : String) : Bool :=
  text.toList.all fun char => char != '&' && char != '='

theorem plain_in_query_iff (text : String) :
    plainInQuery text ↔ '&' ∉ text.toList ∧ '=' ∉ text.toList := by
  unfold plainInQuery
  rw [List.all_eq_true]
  constructor
  · intro all
    exact ⟨fun member => by simpa using all _ member, fun member => by simpa using all _ member⟩
  · rintro ⟨noAmpersand, noEquals⟩ char member
    have first : char ≠ '&' := fun same => noAmpersand (same ▸ member)
    have second : char ≠ '=' := fun same => noEquals (same ▸ member)
    simp [first, second]

def queryPart (name : String) (found : JsValue) (part : String) : JsValue :=
  match part.splitOn "=" with
  | key :: value :: _ => if key = name then .string value else found
  | key :: [] => if key = name then .undefined else found
  | [] => found

theorem query_value_fold (query name : String) :
    queryValue query name = (query.splitOn "&").foldl (queryPart name) .undefined := rfl

theorem query_part_plain (name text part : String) (found : JsValue)
    (plainPart : '&' ∉ part.toList) (plainFound : found = .string text → plainInQuery text)
    (read : queryPart name found part = .string text) : plainInQuery text := by
  unfold queryPart at read
  split at read
  next key value rest split =>
    split at read
    · cases read
      have member : text ∈ part.splitOn (String.singleton '=') :=
        split ▸ List.mem_cons_of_mem _ List.mem_cons_self
      obtain ⟨noEquals, inside⟩ := mem_split_on '=' part text member
      exact (plain_in_query_iff text).mpr ⟨fun found => plainPart (inside _ found), noEquals⟩
    · exact plainFound read
  · split at read
    · cases read
    · exact plainFound read
  · exact plainFound read

theorem query_value_plain (query name text : String)
    (found : queryValue query name = .string text) : plainInQuery text := by
  rw [query_value_fold] at found
  have parts : ∀ part ∈ query.splitOn "&", '&' ∉ part.toList := fun part member =>
    (mem_split_on '&' query part member).1
  generalize query.splitOn "&" = pieces at found parts
  have start : JsValue.undefined = .string text → plainInQuery text := nofun
  generalize JsValue.undefined = value at found start
  induction pieces generalizing value with
  | nil => exact start found
  | cons part pieces ih =>
      obtain ⟨here, rest⟩ := List.forall_mem_cons.mp parts
      exact ih rest _ found (query_part_plain name text part value here start)

theorem query_part_joined (name key value : String) (found : JsValue) (plainKey : plainInQuery key)
    (plainValue : plainInQuery value) :
    queryPart name found (joined '=' key value) = if key = name then .string value else found := by
  have split : (joined '=' key value).splitOn "=" = [key, value] := by
    change (joined '=' key value).splitOn (String.singleton '=') = _
    rw [split_on_joined, split_on_plain _ ((plain_in_query_iff key).mp plainKey).2,
      split_on_plain _ ((plain_in_query_iff value).mp plainValue).2]
    rfl
  unfold queryPart
  rw [split]

theorem joined_part (key value : String) (plainKey : plainInQuery key)
    (plainValue : plainInQuery value) :
    (joined '=' key value).splitOn (String.singleton '&') = [joined '=' key value] := by
  refine split_on_plain _ ?_
  rw [joined_to_list, List.mem_append, List.mem_cons]
  rintro (inKey | same | inValue)
  · exact ((plain_in_query_iff key).mp plainKey).1 inKey
  · exact absurd same (by decide)
  · exact ((plain_in_query_iff value).mp plainValue).1 inValue

theorem query_value_single (key value name : String) (plainKey : plainInQuery key)
    (plainValue : plainInQuery value) :
    queryValue (joined '=' key value) name = if key = name then .string value else .undefined := by
  rw [query_value_fold]
  change ((joined '=' key value).splitOn (String.singleton '&')).foldl _ _ = _
  rw [joined_part key value plainKey plainValue, List.foldl_cons, List.foldl_nil,
    query_part_joined _ _ _ _ plainKey plainValue]

end CleanRoom.Governance
