import CleanRoom.Library.Encodings
import CleanRoom.Library.GoJson
import Mathlib.Data.List.AList

/-!
# Decoding JSON into Go structures

`json.Unmarshal` writes into the value it is given. Members of an object that
name no field are skipped, a name may differ from the field in its case, and
`null` leaves a string, a boolean or a structure as it is. A repeated member is
written over the earlier one, so a structure and the elements of a slice keep
what the later member does not mention. A member of the wrong type fails the call.
-/

namespace CleanRoom.GoStruct

open JsonText ByteFile Encodings

/-- The characters of a UTF-8 text. Each byte that does not begin a well-formed
character is read as a replacement character. Each step consumes a byte at
least, so the length is fuel enough. -/
def runesFrom : Nat → Bytes → List Char
  | fuel + 1, lead :: rest =>
      match utf8Ranges lead.toNat with
      | none => Char.ofNat 0xFFFD :: runesFrom fuel rest
      | some ranges =>
          let following := utf8Following ranges rest
          if following.length = ranges.length then
            Char.ofNat (utf8Scalar lead.toNat following) ::
              runesFrom fuel (rest.drop following.length)
          else Char.ofNat 0xFFFD :: runesFrom fuel rest
  | _, _ => []

def runes (bytes : Bytes) : List Char := runesFrom bytes.length bytes

/-- `base64.StdEncoding.DecodeString`, which skips line ends. -/
def decodeBase64 (text : String) : Option Bytes :=
  base64Bytes (text.toList.filter fun char => char ≠ '\r' ∧ char ≠ '\n')

theorem decode_to_base64 (bytes : Bytes) : decodeBase64 (toBase64String bytes) = some bytes := by
  have kept : (base64Chars bytes).filter (fun char => char ≠ '\r' ∧ char ≠ '\n') =
      base64Chars bytes := by
    refine List.filter_eq_self.mpr fun char member => decide_eq_true ⟨?_, ?_⟩ <;>
    · rintro rfl
      exact absurd (base64_chars_no_space bytes _ member) (by decide)
  rw [decodeBase64, toBase64String, String.toList_ofList, kept, base64_bytes_chars]

section

variable {Item Key Value : Type}

/-- A map that a loop over items fills, newest entry first: a lookup finds the
entry that was written last. -/
def filled (read : Item → Option (Key × Value)) (items : List Item) : List (Key × Value) :=
  (items.filterMap read).reverse

/-- The last of the items that write the key writes this value. -/
def LastEntry (read : Item → Option (Key × Value)) (items : List Item) (key : Key)
    (value : Value) : Prop :=
  ∃ before item after, items = before ++ item :: after ∧ read item = some (key, value) ∧
    ∀ later ∈ after, ∀ other, read later ≠ some (key, other)

variable [BEq Key] [LawfulBEq Key]

theorem lookup_filled_none (read : Item → Option (Key × Value)) (items : List Item) (key : Key)
    (unread : ∀ item ∈ items, ∀ value, read item ≠ some (key, value)) :
    (filled read items).lookup key = none := by
  rw [List.lookup_eq_none_iff]
  rintro ⟨other, value⟩ member
  obtain ⟨item, itemMember, same⟩ := List.mem_filterMap.mp (List.mem_reverse.mp member)
  rw [bne_iff_ne]
  rintro rfl
  exact unread item itemMember value same

theorem lookup_filled (read : Item → Option (Key × Value)) (items : List Item) (key : Key)
    (value : Value) :
    (filled read items).lookup key = some value ↔ LastEntry read items key value := by
  constructor
  · intro found
    obtain ⟨newer, older, same, unread⟩ := List.lookup_eq_some_iff.mp found
    have inOrder : items.filterMap read = older.reverse ++ (key, value) :: newer.reverse := by
      rw [← List.reverse_reverse (items.filterMap read), ← filled, same]
      simp
    obtain ⟨before, rest, rfl, _, restRead⟩ := List.filterMap_eq_append_iff.mp inOrder
    obtain ⟨skipped, item, after, rfl, _, itemRead, afterRead⟩ :=
      List.filterMap_eq_cons_iff.mp restRead
    refine ⟨before ++ skipped, item, after, by simp, itemRead, ?_⟩
    intro later member other laterRead
    have listed : (key, other) ∈ newer.reverse := by
      rw [← afterRead]
      exact List.mem_filterMap.mpr ⟨later, member, laterRead⟩
    exact (bne_iff_ne.mp (unread _ (List.mem_reverse.mp listed))) rfl
  · rintro ⟨before, item, after, rfl, itemRead, unread⟩
    have split : filled read (before ++ item :: after) =
        filled read after ++ (key, value) :: filled read before := by
      simp [filled, itemRead]
    rw [split, List.lookup_append, lookup_filled_none read after key unread]
    simp

end

abbrev Decoder (Value : Type) := Value → Json → Option Value

structure Slice (Element : Type) where
  items : List Element
  spare : List Element
deriving DecidableEq

def Slice.empty {Element : Type} : Slice Element := ⟨[], []⟩

def text : Decoder String
  | old, .null => some old
  | _, .string value => some value
  | _, _ => none

def flag : Decoder Bool
  | old, .null => some old
  | _, .bool value => some value
  | _, _ => none

section

variable {Element Value Field : Type}

def elements (zero : Element) (element : Decoder Element) :
    List Element → List Json → Option (List Element)
  | _, [] => some []
  | held, value :: values => do
      let item ← element (held.headD zero) value
      let items ← elements zero element held.tail values
      return item :: items

def slice (zero : Element) (element : Decoder Element) : Decoder (Slice Element)
  | _, .null => some .empty
  | _, .array [] => some .empty
  | old, .array values => do
      let held := old.items ++ old.spare
      let items ← elements zero element held values
      return ⟨items, held.drop items.length⟩
  | _, _ => none

/-- The folding of `encoding/json`, as far as names of ASCII letters can tell:
the long s and the Kelvin sign are the only other characters that fold to
such a letter. -/
def foldRune (char : Char) : Char :=
  if char = Char.ofNat 0x17F then 's'
  else if char = Char.ofNat 0x212A then 'k'
  else char.toLower

def foldName (name : String) : List Char := name.toList.map foldRune

/-- A field with this exact name, or else one whose name differs in case only. -/
def selectField (fields : List (String × Decoder Value)) (key : String) : Option (Decoder Value) :=
  match fields.lookup key with
  | some decoder => some decoder
  | none => (fields.find? fun field => foldName field.1 = foldName key).map Prod.snd

def writeMember (fields : List (String × Decoder Value)) (old : Value) (member : String × Json) :
    Option Value :=
  match selectField fields member.1 with
  | some decoder => decoder old member.2
  | none => some old

def struct (fields : List (String × Decoder Value)) : Decoder Value
  | old, .null => some old
  | old, .object members => members.foldlM (writeMember fields) old
  | _, _ => none

def part (get : Value → Field) (set : Value → Field → Value) (decoder : Decoder Field) :
    Decoder Value := fun old value => (decoder (get old) value).map (set old)

end

/-- `json.Unmarshal` of a whole text into a value that starts as `zero`. -/
def unmarshalInto {Value : Type} (decoder : Decoder Value) (zero : Value) (data : Bytes) :
    Option Value :=
  (parse (runes data)).bind (decoder zero)

end CleanRoom.GoStruct
