import CleanRoom.Cvm.TrustChain
import Mathlib.Data.List.Flatten

/-!
# Register values and the quote

The verifier hashes the supplied register values in the order of their indices and
compares with the quoted digest. It reads neither the selection of the quote nor
the length of a value, so the digest fixes the concatenation and nothing more. The
supplied map is what was quoted exactly when its indices and lengths are those of the
selected registers.
-/

namespace CleanRoom.Cvm

open ByteFile BigEndian

def PcrSelection.indices (selection : PcrSelection) : List Nat :=
  (List.range (8 * selection.pcrSelect.length)).filter fun index =>
    (selection.pcrSelect.getD (index / 8) 0).toNat.testBit (index % 8)

/-- The selected registers with their banks, in the order in which a quote hashes
them. -/
def quotedPCRs (selection : List PcrSelection) : List (TpmAlg × Nat) :=
  selection.flatMap fun bank => bank.indices.map fun index => (bank.hash, index)

/-- The registers of a TPM at the time of a quote. -/
structure PcrBanks where
  value : TpmAlg → Nat → Bytes
  size : ∀ hash index, (value hash index).length = hash.digestSize

def PcrBanks.concat (banks : PcrBanks) (selection : List PcrSelection) : Bytes :=
  (quotedPCRs selection).flatMap fun pcr => banks.value pcr.1 pcr.2

/-- Only the TPM signs with the key, and a quote it signs has the digest of the
values it selects. -/
def HonestKey (host : Host) (key : RsaPublicKey) : Prop :=
  ∀ attestBytes sig extraData selection digest,
    host.verifyPKCS1v15 key (host.sha256 attestBytes) sig = .ok () →
    host.unmarshalAttest attestBytes = .ok ⟨extraData, .quote selection digest⟩ →
    ∃ banks : PcrBanks, digest = host.sha256 (banks.concat selection)

def pcrEntries (pcrValues : AList fun _ : Int => Bytes) : List (Int × Bytes) :=
  (pcrValues.keys.insertionSort (· ≤ ·)).map fun index =>
    (index, (pcrValues.lookup index).getD [])

/-- Every supplied value is that of a selected register with its index. -/
def PcrsSound (pcrValues : AList fun _ : Int => Bytes) (selection : List PcrSelection)
    (banks : PcrBanks) : Prop :=
  ∀ index value, pcrValues.lookup index = some value →
    ∃ pcr ∈ quotedPCRs selection, index = (pcr.2 : Int) ∧ value = banks.value pcr.1 pcr.2

/-- The supplied indices and the lengths of their values are those of the selected
registers. -/
def SameLayout (pcrValues : AList fun _ : Int => Bytes) (selection : List PcrSelection) : Prop :=
  (pcrEntries pcrValues).map (fun entry => (entry.1, entry.2.length)) =
    (quotedPCRs selection).map fun pcr => ((pcr.2 : Int), pcr.1.digestSize)

/-- No index is selected in two banks, and the banks follow one another upwards. A
selection from one bank is of this kind. -/
def Ascending (selection : List PcrSelection) : Prop :=
  ((quotedPCRs selection).map Prod.snd).Pairwise (· < ·)

section Entries

variable (pcrValues : AList fun _ : Int => Bytes)

theorem mem_pcr_entries (index : Int) (value : Bytes) :
    (index, value) ∈ pcrEntries pcrValues ↔ pcrValues.lookup index = some value := by
  simp only [pcrEntries, List.mem_map, List.mem_insertionSort, Prod.mk.injEq]
  constructor
  · rintro ⟨key, listed, rfl, rfl⟩
    obtain ⟨found, same⟩ := Option.isSome_iff_exists.mp (AList.lookup_isSome.mpr listed)
    rw [same]
    rfl
  · intro found
    refine ⟨index, ?_, rfl, by rw [found]; rfl⟩
    exact AList.lookup_isSome.mp (by rw [found]; rfl)

theorem pcr_entries_ascending :
    (pcrEntries pcrValues).Pairwise fun left right => left.1 < right.1 := by
  rw [pcrEntries, List.pairwise_map]
  have distinct : (pcrValues.keys.insertionSort (· ≤ ·)).Nodup :=
    (List.perm_insertionSort _ _).nodup_iff.mpr pcrValues.keys_nodup
  exact ((List.pairwise_insertionSort _ pcrValues.keys).and distinct).imp fun both =>
    lt_of_le_of_ne both.1 both.2

theorem concat_pcrs_eq : concatPCRs pcrValues = ((pcrEntries pcrValues).map Prod.snd).flatten := by
  rw [concatPCRs, pcrEntries, List.map_map, List.flatMap_def]
  rfl

end Entries

section Layout

variable {pcrValues : AList fun _ : Int => Bytes} {selection : List PcrSelection}
  {banks : PcrBanks}

def quotedEntries (banks : PcrBanks) (selection : List PcrSelection) : List (Int × Bytes) :=
  (quotedPCRs selection).map fun pcr => ((pcr.2 : Int), banks.value pcr.1 pcr.2)

theorem concat_eq : banks.concat selection =
    ((quotedEntries banks selection).map Prod.snd).flatten := by
  rw [PcrBanks.concat, quotedEntries, List.map_map, List.flatMap_def]
  rfl

theorem entries_eq_of_layout (same : concatPCRs pcrValues = banks.concat selection)
    (layout : SameLayout pcrValues selection) :
    pcrEntries pcrValues = quotedEntries banks selection := by
  have indices : (pcrEntries pcrValues).map Prod.fst =
      (quotedEntries banks selection).map Prod.fst := by
    have first := congrArg (List.map Prod.fst) layout
    simpa only [List.map_map, quotedEntries, Function.comp_def] using first
  have lengths : ((pcrEntries pcrValues).map Prod.snd).map List.length =
      ((quotedEntries banks selection).map Prod.snd).map List.length := by
    have second := congrArg (List.map Prod.snd) layout
    simpa only [List.map_map, quotedEntries, Function.comp_def, banks.size] using second
  rw [concat_pcrs_eq, concat_eq] at same
  have values := List.eq_iff_flatten_eq.mpr ⟨same, lengths⟩
  exact (List.zip_of_prod indices values).trans (List.zip_of_prod rfl rfl).symm

theorem layout_of_entries_eq (same : pcrEntries pcrValues = quotedEntries banks selection) :
    SameLayout pcrValues selection := by
  rw [SameLayout, same, quotedEntries, List.map_map]
  apply List.map_congr_left
  intro pcr _
  simp only [Function.comp_def, banks.size]

theorem sound_iff_subset :
    PcrsSound pcrValues selection banks ↔
      pcrEntries pcrValues ⊆ quotedEntries banks selection := by
  constructor
  · rintro sound ⟨index, value⟩ member
    obtain ⟨pcr, selected, rfl, rfl⟩ :=
      sound index value ((mem_pcr_entries pcrValues index value).mp member)
    exact List.mem_map_of_mem selected
  · intro subset index value found
    obtain ⟨pcr, selected, same⟩ := List.mem_map.mp
      (subset ((mem_pcr_entries pcrValues index value).mpr found))
    cases same
    exact ⟨pcr, selected, rfl, rfl⟩

theorem digest_size_pos (hash : TpmAlg) : 0 < hash.digestSize := by
  cases hash <;> decide

theorem sublist_eq_of_flatten {part whole : List (Int × Bytes)} (sublist : part.Sublist whole)
    (nonempty : ∀ entry ∈ whole, 0 < entry.2.length)
    (same : (part.map Prod.snd).flatten.length = (whole.map Prod.snd).flatten.length) :
    part = whole := by
  induction sublist with
  | slnil => rfl
  | @cons part rest entry sublist ih =>
      have shorter := (sublist.map Prod.snd).flatten.length_le
      have entryLength := nonempty entry List.mem_cons_self
      simp only [List.map_cons, List.flatten_cons, List.length_append] at same
      omega
  | @cons_cons part rest entry sublist ih =>
      simp only [List.map_cons, List.flatten_cons, List.length_append] at same
      rw [ih (fun other member => nonempty other (List.mem_cons_of_mem _ member)) (by omega)]

theorem layout_of_sound (same : concatPCRs pcrValues = banks.concat selection)
    (ascending : Ascending selection) (sound : PcrsSound pcrValues selection banks) :
    SameLayout pcrValues selection := by
  let before := fun left right : Int × Bytes => left.1 < right.1
  have antisymmetric : Std.Antisymm before :=
    ⟨fun left right below above => absurd below (lt_asymm above)⟩
  have quotedAscending : (quotedEntries banks selection).Pairwise before := by
    rw [Ascending, List.pairwise_map] at ascending
    rw [quotedEntries, List.pairwise_map]
    exact ascending.imp fun less => Int.ofNat_lt.mpr less
  have suppliedAscending : (pcrEntries pcrValues).Pairwise before :=
    pcr_entries_ascending pcrValues
  have distinct : (pcrEntries pcrValues).Nodup := suppliedAscending.imp fun {left right} less => by
    intro equal
    rw [equal] at less
    exact lt_irrefl _ less
  have sublist := List.sublist_of_subperm_of_pairwise
    (List.subperm_of_subset distinct (sound_iff_subset.mp sound)) suppliedAscending quotedAscending
  rw [concat_pcrs_eq, concat_eq] at same
  apply layout_of_entries_eq (sublist_eq_of_flatten sublist _ (congrArg List.length same))
  intro entry member
  obtain ⟨pcr, _, rfl⟩ := List.mem_map.mp member
  rw [banks.size]
  exact digest_size_pos pcr.1

end Layout

/-- For verified evidence with the attestation key of an honest TPM: the signed quote
covers registers with these values. If the supplied map has their layout, each of
its values is that of the selected register with its index; and for a selection
from one bank only then. -/
theorem verified_pcrs_sound_iff_layout (host : Host) (input : EvidenceInput)
    (collisionFree : Function.Injective host.sha256)
    (honest : ∀ claims key, ClaimsIn input.hclReport claims → NamedKey host claims key →
      HonestKey host key) (verified : (verifyAll host input).verified = true) :
    ∃ claims key attestBytes selection, ∃ banks : PcrBanks,
      ClaimsIn input.hclReport claims ∧ NamedKey host claims key ∧
      QuoteSigned host key input.tpmQuote attestBytes
        ⟨input.nonce, .quote selection (host.sha256 (banks.concat selection))⟩ ∧
      (SameLayout input.pcrValues selection → PcrsSound input.pcrValues selection banks) ∧
      (Ascending selection → PcrsSound input.pcrValues selection banks →
        SameLayout input.pcrValues selection) := by
  obtain ⟨certs, chain, quote, bundle, classified, quoted, checks, passed⟩ :=
    verified_cases host input verified
  rw [checks] at passed
  obtain ⟨claims, key, selection, links⟩ :=
    trust_chain_of_passed host input certs chain quote bundle classified quoted passed
  obtain ⟨_, _, signed⟩ := links.quote.signed
  obtain ⟨banks, digest⟩ := honest claims key links.runtimeClaims links.attestationKey
    quote.attestBytes _ input.nonce selection _ signed links.quote.parsed
  have same : concatPCRs input.pcrValues = banks.concat selection := collisionFree digest
  have signedQuote := links.quote
  rw [digest] at signedQuote
  refine ⟨claims, key, quote.attestBytes, selection, banks, links.runtimeClaims,
    links.attestationKey, signedQuote, ?_, layout_of_sound same⟩
  intro layout
  rw [sound_iff_subset, entries_eq_of_layout same layout]
  exact fun _ member => member

def smallBanks : PcrBanks where
  value hash index :=
    if hash = .sha256 ∧ index = 0 then ones
    else if hash = .sha256 ∧ index = 1 then twos else List.replicate hash.digestSize 0
  size hash index := by
    split_ifs with first second
    · rw [first.1]
      rfl
    · rw [second.1]
      rfl
    · exact List.length_replicate

theorem small_key_honest (key : RsaPublicKey) : HonestKey smallHost key := by
  intro attestBytes sig extraData selection digest signed parsed
  have signedOnly : attestBytes = smallAttest := by
    simp only [smallHost] at signed
    split_ifs at signed with only
    exact only.1
  subst signedOnly
  cases parsed
  exact ⟨smallBanks, by decide +kernel⟩

/-- The registers of the small quote have the supplied values, and are supplied in its layout. -/
theorem small_evidence_pcrs_sound :
    ∃ claims key attestBytes, ∃ banks : PcrBanks,
      ClaimsIn (smallEvidence quotedValues).hclReport claims ∧ NamedKey smallHost claims key ∧
      QuoteSigned smallHost key (smallEvidence quotedValues).tpmQuote attestBytes
        ⟨[9], .quote [⟨.sha256, [3]⟩] (smallHost.sha256 (banks.concat [⟨.sha256, [3]⟩]))⟩ ∧
      PcrsSound quotedValues [⟨.sha256, [3]⟩] banks ∧
      SameLayout quotedValues [⟨.sha256, [3]⟩] := by
  obtain ⟨claims, key, attestBytes, selection, banks, claimed, named, quoted, sound, layout⟩ :=
    verified_pcrs_sound_iff_layout smallHost (smallEvidence quotedValues)
      (fun _ _ same => same) (fun _ key _ _ => small_key_honest key) small_evidence_verified
  have selected : selection = [⟨.sha256, [3]⟩] := by
    have attest : attestBytes = smallAttest := quoted.attestIs.trans (by decide +kernel)
    have parsed := Except.ok.inj (attest ▸ quoted.parsed)
    injection parsed with _ quote
    injection quote with same _
    exact same.symm
  subst selected
  have holds := sound (by unfold SameLayout; decide +kernel)
  exact ⟨claims, key, attestBytes, banks, claimed, named, quoted, holds,
    layout (by unfold Ascending; decide +kernel) holds⟩

def relabelledValues : AList fun _ : Int => Bytes :=
  ((∅ : AList fun _ : Int => Bytes).insert 7 twos).insert 5 ones

/-- The evidence is verified although the quote selects neither register. -/
theorem relabelled_registers_verified :
    (verifyAll smallHost (smallEvidence relabelledValues)).verified = true ∧
    relabelledValues.lookup 5 = some ones ∧
    smallHost.unmarshalAttest smallAttest =
      .ok ⟨[9], .quote [⟨.sha256, [3]⟩] (smallBanks.concat [⟨.sha256, [3]⟩])⟩ ∧
    quotedPCRs [⟨.sha256, [3]⟩] = [(.sha256, 0), (.sha256, 1)] ∧
    ∀ banks, ¬PcrsSound relabelledValues [⟨.sha256, [3]⟩] banks := by
  refine ⟨by decide +kernel, by decide +kernel, by decide +kernel, by decide +kernel, ?_⟩
  intro banks sound
  obtain ⟨pcr, selected, index, _⟩ := sound 5 ones (by decide +kernel)
  have small : pcr ∈ [(TpmAlg.sha256, 0), (TpmAlg.sha256, 1)] := selected
  simp only [List.mem_cons, List.not_mem_nil, or_false] at small
  rcases small with rfl | rfl <;> simp at index

end CleanRoom.Cvm
