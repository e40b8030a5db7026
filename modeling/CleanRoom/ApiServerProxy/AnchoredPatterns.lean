import CleanRoom.ApiServerProxy.PodAdmission
import CleanRoom.Library.Regexp

/-!
# Patterns of a policy

`checkEnvVars` puts the expression of an entry between anchors and looks for a match in the
value. The anchors stand inside of the alternatives of the expression: the first one is bound
to the beginning of the value only, the last one to its end only and those between them to
nothing. Flags that the expression sets or a quotation that it leaves open change the dollar.
-/

namespace CleanRoom.ApiServerProxy

open JsonText GoJson GoStruct Throwing Regexp

/-- The controller with the regular expressions of Go. -/
def Verifier.withRegexp (verifier : Verifier) (lexicon : Lexicon) : Verifier :=
  { verifier with regexMatch := matchString lexicon }

def EndsAt (lexicon : Lexicon) (pattern : Pattern) (value : List Char) (place : Nat) : Prop :=
  ∃ last, last ∈ (pattern.ending lexicon).ends value place

/-- What the anchors leave of the expression: the value begins with the first alternative,
contains one of the middle or ends with the last. -/
def PartlyMatches (lexicon : Lexicon) (pattern : Pattern) (value : List Char) : Prop :=
  match pattern.branches.complete with
  | [] => ∃ place ∈ (ofItems pattern.branches.current).ends value 0,
      EndsAt lexicon pattern value place
  | first :: middle =>
      (∃ place, place ∈ (ofItems first).ends value 0) ∨
      (∃ items ∈ middle, ∃ start ≤ value.length, ∃ place,
        place ∈ (ofItems items).ends value start) ∨
      ∃ start ≤ value.length, ∃ place ∈ (ofItems pattern.branches.current).ends value start,
        EndsAt lexicon pattern value place

theorem begins_iff (value : List Char) (items : List Regex) :
    (∃ start ≤ value.length, ∃ last,
        last ∈ (ofItems (.assertion .beginText :: items)).ends value start) ↔
      ∃ last, last ∈ (ofItems items).ends value 0 := by
  simp only [mem_ends_cons, Regex.ends, Assertion.holdsAt, decide_eq_true_eq]
  constructor
  · intro found
    rcases found with ⟨start, _, last, place, begun, inside⟩
    split_ifs at begun with atStart
    · rw [List.mem_singleton.mp begun, atStart] at inside
      exact ⟨last, inside⟩
    · cases begun
  · intro found
    rcases found with ⟨last, inside⟩
    exact ⟨0, Nat.zero_le _, last, 0, by simp, inside⟩

theorem ends_iff (lexicon : Lexicon) (pattern : Pattern) (value : List Char)
    (items : List Regex) (start : Nat) :
    (∃ last, last ∈ (ofItems (items ++ [pattern.ending lexicon])).ends value start) ↔
      ∃ place ∈ (ofItems items).ends value start, EndsAt lexicon pattern value place := by
  simp only [mem_ends_append, EndsAt]
  constructor
  · intro found
    rcases found with ⟨last, place, inside, ended⟩
    exact ⟨place, inside, last, ended⟩
  · intro found
    rcases found with ⟨place, inside, last, ended⟩
    exact ⟨last, place, inside, ended⟩

theorem search_branches_iff (value : List Char) (branches : List (List Regex))
    (nonempty : branches ≠ []) :
    (ofBranches branches).search value = true ↔
      ∃ items ∈ branches, ∃ start ≤ value.length, ∃ last,
        last ∈ (ofItems items).ends value start := by
  simp only [search_iff, mem_ends_branches value branches nonempty]
  constructor
  · intro found
    rcases found with ⟨start, inside, last, items, listed, matched⟩
    exact ⟨items, listed, start, inside, last, matched⟩
  · intro found
    rcases found with ⟨items, listed, start, inside, last, matched⟩
    exact ⟨start, inside, last, items, listed, matched⟩

theorem search_anchored_iff (lexicon : Lexicon) (pattern : Pattern) (value : List Char) :
    (pattern.anchored lexicon).regex.search value = true ↔
      PartlyMatches lexicon pattern value := by
  rcases pattern with ⟨⟨complete, current⟩, flags, quoting⟩
  cases complete with
  | nil =>
      change (ofBranches [.assertion .beginText :: (current ++ [_])]).search value = true ↔ _
      rw [search_branches_iff value _ (List.cons_ne_nil _ _), PartlyMatches]
      simp only [List.mem_singleton, exists_eq_left, begins_iff, ends_iff]
  | cons first middle =>
      change (ofBranches ((.assertion .beginText :: first) :: (middle ++ [current ++ [_]]))).search
        value = true ↔ _
      rw [search_branches_iff value _ (List.cons_ne_nil _ _), PartlyMatches]
      simp only [List.exists_mem_cons_iff, List.mem_append, List.mem_singleton, or_and_right,
        exists_or, exists_eq_left, begins_iff, ends_iff]

theorem anchored_match_iff (lexicon : Lexicon) (expression value : String) (pattern : Pattern)
    (parsed : parse lexicon expression.toList = some pattern) :
    matchString lexicon ("^" ++ expression ++ "$") value = .ok true ↔
      PartlyMatches lexicon pattern value.toList := by
  have text : ("^" ++ expression ++ "$").toList = '^' :: expression.toList ++ ['$'] := by simp
  rw [matchString, text, parse_anchored lexicon _ pattern parsed]
  simp only [Except.ok.injEq]
  exact search_anchored_iff lexicon pattern value.toList

theorem whole_of_single (lexicon : Lexicon) (pattern : Pattern) (value : List Char)
    (single : pattern.branches.complete = []) (unquoted : pattern.quoting = false)
    (oneLine : pattern.flags.multiLine = false) (partly : PartlyMatches lexicon pattern value) :
    pattern.regex.Whole value := by
  rw [PartlyMatches, single] at partly
  rcases partly with ⟨place, inside, last, ended⟩
  simp only [Pattern.ending, unquoted, oneLine, Bool.false_eq_true, if_false, Regex.ends,
    Assertion.holdsAt, decide_eq_true_eq] at ended
  split_ifs at ended with atEnd
  · rw [atEnd] at inside
    rw [Pattern.regex, Branches.all, single]
    exact inside
  · cases ended

/-- Every accepted value matches as a whole exactly if the alternatives match as a whole wherever
they match between the anchors. A single alternative that leaves the dollar as it is does. -/
theorem anchored_patterns_whole_iff (verifier : Verifier) (lexicon : Lexicon) (expression : String)
    (pattern : Pattern) (parsed : parse lexicon expression.toList = some pattern) :
    ((∀ container name containerType policy,
        checkEnvVars (verifier.withRegexp lexicon) container name containerType policy = .ok () →
        ∀ env ∈ policy.environmentVariables.items, env.regex = true → env.value = expression →
        ∀ value, (podEnvMap container).lookup env.name = some value →
          pattern.regex.Whole value.toList) ↔
      ∀ value : String, PartlyMatches lexicon pattern value.toList →
        pattern.regex.Whole value.toList) ∧
    (pattern.branches.complete = [] → pattern.quoting = false → pattern.flags.multiLine = false →
      ∀ value : String, PartlyMatches lexicon pattern value.toList →
        pattern.regex.Whole value.toList) := by
  refine ⟨⟨?_, ?_⟩, fun single unquoted oneLine value partly =>
    whole_of_single lexicon pattern value.toList single unquoted oneLine partly⟩
  · intro whole value partly
    let container : Fields :=
      [("env", .array [.object [("name", .string "V"), ("value", .string value)]])]
    let env : EnvVar := ⟨"V", expression, true⟩
    let policy : ContainerProperties :=
      { ContainerProperties.zero with environmentVariables := ⟨[env], []⟩ }
    have given : (podEnvMap container).lookup "V" = some value := rfl
    have accepted : checkEnvVars (verifier.withRegexp lexicon) container "" "" policy = .ok () := by
      have matched := (anchored_match_iff lexicon expression value pattern parsed).mpr partly
      change (checkEnvVar (verifier.withRegexp lexicon) (podEnvMap container) "" "" env >>=
        fun _ => pure ()) = _
      simp only [checkEnvVar, given, env, Verifier.withRegexp, matched]
      rfl
    exact whole container "" "" policy accepted env (List.mem_singleton.mpr rfl) rfl rfl value given
  · intro sound container name containerType policy accepted env listed regex same value given
    simp only [checkEnvVars, forM_eq_ok] at accepted
    have passed := accepted env listed
    have partly : PartlyMatches lexicon pattern value.toList := by
      apply (anchored_match_iff lexicon expression value pattern parsed).mp
      simp only [checkEnvVar, given, regex, if_true, same] at passed
      split at passed
      · assumption
      · cases passed
    exact sound value partly

/-- Escapes of punctuation, without classes, counts and names. -/
def sampleLexicon : Lexicon where
  folds first second := first.toLower = second.toLower
  single
    | '\\' :: char :: rest =>
        if char.isAlphanum || 128 ≤ char.toNat then none
        else some (fun _ other => other = char, rest)
    | _ => none
  counted _ := none
  named _ := none
  single_dollar text accepts rest read := by
    split at read
    · split_ifs at read with refused
      cases read
      simp [refused]
    · cases read
  counted_dollar _ := rfl
  named_dollar _ := rfl

def patternPolicy (expression : String) : ContainerProperties :=
  { ContainerProperties.zero with environmentVariables := ⟨[⟨"MODE", expression, true⟩], []⟩ }

theorem single_pattern_whole :
    ∃ pattern, parse sampleLexicon "ab".toList = some pattern ∧
      ∀ container name containerType policy,
        checkEnvVars (sampleVerifier.withRegexp sampleLexicon) container name containerType policy =
          .ok () →
        ∀ env ∈ policy.environmentVariables.items, env.regex = true → env.value = "ab" →
        ∀ value, (podEnvMap container).lookup env.name = some value →
          pattern.regex.Whole value.toList := by
  refine ⟨_, rfl, ?_⟩
  obtain ⟨exactly, single⟩ := anchored_patterns_whole_iff sampleVerifier sampleLexicon "ab" _ rfl
  exact exactly.mpr (single rfl rfl rfl)

/-- The value begins with the first alternative, and that is all. -/
theorem first_alternative_accepted :
    ∃ pattern, parse sampleLexicon "safe|test".toList = some pattern ∧
      checkEnvVars (sampleVerifier.withRegexp sampleLexicon)
        [("env", .array [.object [("name", .string "MODE"), ("value", .string "safe=no")]])]
        "web" "container" (patternPolicy "safe|test") = .ok () ∧
      ¬ pattern.regex.Whole "safe=no".toList := by
  refine ⟨_, rfl, rfl, ?_⟩
  unfold Regex.Whole
  decide

end CleanRoom.ApiServerProxy
