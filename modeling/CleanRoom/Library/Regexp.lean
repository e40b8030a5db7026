import Mathlib.Data.List.Basic

/-!
# Regular expressions of Go

The syntax of package `regexp/syntax` with the Perl flags, read in two steps: the text into
tokens, and the tokens into items, branches and groups with a stack, as the package does. How
classes, escapes, counts and group names are written is left to a lexicon. The limits on the
size of a pattern and the check that group names differ are left out.
-/

namespace CleanRoom.Regexp

inductive Assertion where
  | beginText | endText | beginLine | endLine | wordBoundary | noWordBoundary
deriving DecidableEq

inductive Regex where
  | empty
  | char (accepts : Char → Bool)
  | assertion (kind : Assertion)
  | concat (first second : Regex)
  | alternate (first second : Regex)
  | repeated (min : Nat) (max : Option Nat) (item : Regex)

def isWordChar (char : Char) : Bool := char.isAlphanum || char = '_'

def isBoundary (value : List Char) (place : Nat) : Bool :=
  (place != 0 && (value[place - 1]?).any isWordChar) != (value[place]?).any isWordChar

def Assertion.holdsAt (value : List Char) (place : Nat) : Assertion → Bool
  | .beginText => place = 0
  | .endText => place = value.length
  | .beginLine => place = 0 || value[place - 1]? = some '\n'
  | .endLine => place = value.length || value[place]? = some '\n'
  | .wordBoundary => isBoundary value place
  | .noWordBoundary => !isBoundary value place

def upTo (step : Nat → List Nat) : Nat → Nat → List Nat
  | 0, place => [place]
  | more + 1, place => place :: (step place).flatMap (upTo step more)

def atLeast (step : Nat → List Nat) (more : Nat) : Nat → Nat → List Nat
  | 0, place => upTo step more place
  | min + 1, place => (step place).flatMap (atLeast step more min)

/-- The places where a match that begins at a place may end. A repetition without a bound
cannot go on to further places more often than the value has characters. -/
def Regex.ends (value : List Char) : Regex → Nat → List Nat
  | .empty, place => [place]
  | .char accepts, place => if (value[place]?).any accepts then [place + 1] else []
  | .assertion kind, place => if kind.holdsAt value place then [place] else []
  | .concat first second, place => (first.ends value place).flatMap (second.ends value)
  | .alternate first second, place => first.ends value place ++ second.ends value place
  | .repeated min max item, place =>
      atLeast (item.ends value) ((max.map (· - min)).getD value.length) min place

def Regex.Whole (regex : Regex) (value : List Char) : Prop :=
  value.length ∈ regex.ends value 0

def Regex.search (regex : Regex) (value : List Char) : Bool :=
  (List.range (value.length + 1)).any fun place => !(regex.ends value place).isEmpty

def ofItems (items : List Regex) : Regex := items.foldr .concat .empty

def ofBranches : List (List Regex) → Regex
  | [] => .empty
  | [items] => ofItems items
  | items :: branches => .alternate (ofItems items) (ofBranches branches)

theorem search_iff (regex : Regex) (value : List Char) :
    regex.search value = true ↔
      ∃ start ≤ value.length, ∃ place, place ∈ regex.ends value start := by
  simp only [Regex.search, List.any_eq_true, List.mem_range, Bool.not_eq_true',
    List.isEmpty_eq_false_iff_exists_mem, Nat.lt_succ_iff]

theorem mem_ends_cons (value : List Char) (item : Regex) (items : List Regex) (start last : Nat) :
    last ∈ (ofItems (item :: items)).ends value start ↔
      ∃ place ∈ item.ends value start, last ∈ (ofItems items).ends value place :=
  List.mem_flatMap

theorem mem_ends_append (value : List Char) (items : List Regex) (item : Regex) (start last : Nat) :
    last ∈ (ofItems (items ++ [item])).ends value start ↔
      ∃ place ∈ (ofItems items).ends value start, last ∈ item.ends value place := by
  induction items generalizing start with
  | nil => simp [ofItems, Regex.ends]
  | cons first items ih =>
      simp only [List.cons_append, mem_ends_cons, ih]
      constructor
      · intro found
        rcases found with ⟨middle, before, place, inside, after⟩
        exact ⟨place, ⟨middle, before, inside⟩, after⟩
      · intro found
        rcases found with ⟨place, ⟨middle, before, inside⟩, after⟩
        exact ⟨middle, before, place, inside, after⟩

theorem mem_ends_branches (value : List Char) (branches : List (List Regex))
    (nonempty : branches ≠ []) (start last : Nat) :
    last ∈ (ofBranches branches).ends value start ↔
      ∃ items ∈ branches, last ∈ (ofItems items).ends value start := by
  induction branches with
  | nil => exact absurd rfl nonempty
  | cons items branches ih =>
      cases branches with
      | nil => simp [ofBranches]
      | cons other branches =>
          change last ∈ (ofItems items).ends value start ++
            (ofBranches (other :: branches)).ends value start ↔ _
          simp only [List.mem_append, ih (List.cons_ne_nil _ _), List.exists_mem_cons_iff]

structure Flags where
  foldCase : Bool
  multiLine : Bool
  dotNewline : Bool
deriving DecidableEq

inductive Token where
  | single (accepts : Flags → Char → Bool)
  | assertion (kind : Flags → Assertion)
  | bar
  | open (change : Flags → Flags)
  | close
  | setFlags (change : Flags → Flags)
  | repeat (min : Nat) (max : Option Nat)

/-- What is left open: characters that are equal up to case, a class or an escape for one
character, a count behind its brace and the name of a group behind `(?`. A dollar behind any
of them is not part of it. -/
structure Lexicon where
  folds : Char → Char → Bool
  single : List Char → Option ((Flags → Char → Bool) × List Char)
  counted : List Char → Option (Nat × Option Nat × List Char)
  named : List Char → Option (List Char)
  single_dollar : ∀ text accepts rest, single text = some (accepts, rest) →
    single (text ++ ['$']) = some (accepts, rest ++ ['$'])
  counted_dollar : ∀ text, counted (text ++ ['$']) =
    (counted text).map fun count => (count.1, count.2.1, count.2.2 ++ ['$'])
  named_dollar : ∀ text, named (text ++ ['$']) = (named text).map (· ++ ['$'])

def caret : Token := .assertion fun flags => if flags.multiLine then .beginLine else .beginText

def dollar : Token := .assertion fun flags => if flags.multiLine then .endLine else .endText

/-- The flags of `(?flags)` and `(?flags:`. Greediness does not matter for whether there is a
match. -/
def readFlags : Bool → Bool → (Flags → Flags) → List Char → Option (Token × List Char)
  | _, _, _, [] => none
  | negative, seen, change, char :: text =>
      if char = 'i' then
        readFlags negative true (fun flags => { change flags with foldCase := !negative }) text
      else if char = 'm' then
        readFlags negative true (fun flags => { change flags with multiLine := !negative }) text
      else if char = 's' then
        readFlags negative true (fun flags => { change flags with dotNewline := !negative }) text
      else if char = 'U' then readFlags negative true change text
      else if char = '-' then if negative then none else readFlags true false change text
      else if negative && !seen then none
      else if char = ':' then some (.open change, text)
      else if char = ')' then some (.setFlags change, text)
      else none

def dropLazy : List Char → List Char
  | [] => []
  | char :: text => if char = '?' then text else char :: text

def operator (char : Char) : Option Token :=
  if char = ')' then some .close
  else if char = '|' then some .bar
  else if char = '^' then some caret
  else if char = '$' then some dollar
  else if char = '.' then some (.single fun flags char => flags.dotNewline || char ≠ '\n')
  else none

def repetition (char : Char) : Option (Nat × Option Nat) :=
  if char = '*' then some (0, none)
  else if char = '+' then some (1, none)
  else if char = '?' then some (0, some 1)
  else none

section
variable (lexicon : Lexicon)

def literal (char : Char) : Token :=
  .single fun flags other => other = char || flags.foldCase && lexicon.folds char other

def readGroup (text : List Char) : Option (Token × List Char) :=
  match text with
  | [] => some (.open id, [])
  | char :: rest =>
      if char = '?' then
        match lexicon.named rest with
        | some text => some (.open id, text)
        | none => readFlags false false id rest
      else some (.open id, char :: rest)

def readCount (text : List Char) : Option (Token × List Char) :=
  match lexicon.counted text with
  | none => some (literal lexicon '{', text)
  | some (min, max, rest) =>
      if min > 1000 ∨ max.any (fun max => max > 1000 || min > max) then none
      else some (.repeat min max, dropLazy rest)

def readEscape (text : List Char) : Option (Token × Bool × List Char) :=
  match text with
  | [] => (lexicon.single ['\\']).map fun read => (.single read.1, false, read.2)
  | char :: rest =>
      if char = 'A' then some (.assertion fun _ => .beginText, false, rest)
      else if char = 'z' then some (.assertion fun _ => .endText, false, rest)
      else if char = 'b' then some (.assertion fun _ => .wordBoundary, false, rest)
      else if char = 'B' then some (.assertion fun _ => .noWordBoundary, false, rest)
      else if char = 'Q' then some (.setFlags id, true, rest)
      else (lexicon.single ('\\' :: char :: rest)).map fun read => (.single read.1, false, read.2)

def nextQuoted (char : Char) (text : List Char) : Token × Bool × List Char :=
  match text with
  | [] => (literal lexicon char, true, [])
  | second :: rest =>
      if char = '\\' ∧ second = 'E' then (.setFlags id, false, rest)
      else (literal lexicon char, true, second :: rest)

def nextUnquoted (char : Char) (text : List Char) : Option (Token × Bool × List Char) :=
  match operator char, repetition char with
  | some token, _ => some (token, false, text)
  | none, some (min, max) => some (.repeat min max, false, dropLazy text)
  | none, none =>
      if char = '(' then (readGroup lexicon text).map fun read => (read.1, false, read.2)
      else if char = '{' then (readCount lexicon text).map fun read => (read.1, false, read.2)
      else if char = '\\' then readEscape lexicon text
      else if char = '[' then
        (lexicon.single (char :: text)).map fun read => (.single read.1, false, read.2)
      else some (literal lexicon char, false, text)

def next (quoting : Bool) (char : Char) (text : List Char) : Option (Token × Bool × List Char) :=
  if quoting then some (nextQuoted lexicon char text) else nextUnquoted lexicon char text

def tokens : Nat → Bool → List Char → Option (List Token × Bool)
  | _, quoting, [] => some ([], quoting)
  | 0, _, _ :: _ => none
  | fuel + 1, quoting, char :: text =>
      match next lexicon quoting char text with
      | none => none
      | some (token, quoting, rest) =>
          (tokens fuel quoting rest).map fun read => (token :: read.1, read.2)

variable {text : List Char} {rest : List Char} {token : Token} {quoting : Bool} {char : Char}

theorem read_flags_dollar (negative seen : Bool) (change : Flags → Flags)
    (read : readFlags negative seen change text = some (token, rest)) :
    readFlags negative seen change (text ++ ['$']) = some (token, rest ++ ['$']) := by
  induction text generalizing negative seen change with
  | nil => cases read
  | cons char text ih =>
      rw [List.cons_append, readFlags]
      rw [readFlags] at read
      split_ifs at read ⊢
      · exact ih _ _ _ read
      · exact ih _ _ _ read
      · exact ih _ _ _ read
      · exact ih _ _ _ read
      · exact ih _ _ _ read
      · cases read
        rfl
      · cases read
        rfl

theorem drop_lazy_dollar : dropLazy (text ++ ['$']) = dropLazy text ++ ['$'] := by
  cases text with
  | nil => rfl
  | cons char text =>
      simp only [List.cons_append, dropLazy]
      split <;> rfl

variable {lexicon}

theorem read_group_dollar (read : readGroup lexicon text = some (token, rest)) :
    readGroup lexicon (text ++ ['$']) = some (token, rest ++ ['$']) := by
  cases text with
  | nil =>
      cases read
      rfl
  | cons char text =>
      simp only [List.cons_append, readGroup, lexicon.named_dollar] at read ⊢
      split_ifs at read ⊢
      · cases found : lexicon.named text with
        | some name =>
            rw [found] at read
            cases read
            rfl
        | none =>
            rw [found] at read
            exact read_flags_dollar _ _ _ read
      · cases read
        rfl

theorem read_count_dollar (read : readCount lexicon text = some (token, rest)) :
    readCount lexicon (text ++ ['$']) = some (token, rest ++ ['$']) := by
  simp only [readCount, lexicon.counted_dollar] at read ⊢
  cases found : lexicon.counted text with
  | none =>
      rw [found] at read
      cases read
      rfl
  | some count =>
      rw [found] at read
      simp only [Option.map_some] at read ⊢
      split_ifs at read ⊢
      cases read
      rw [drop_lazy_dollar]

theorem single_token_dollar
    (read : (lexicon.single text).map (fun read => (Token.single read.1, false, read.2)) =
      some (token, quoting, rest)) :
    (lexicon.single (text ++ ['$'])).map (fun read => (Token.single read.1, false, read.2)) =
      some (token, quoting, rest ++ ['$']) := by
  rcases Option.map_eq_some_iff.mp read with ⟨found, single, same⟩
  cases same
  rw [lexicon.single_dollar _ _ _ single]
  rfl

theorem read_escape_dollar (read : readEscape lexicon text = some (token, quoting, rest)) :
    readEscape lexicon (text ++ ['$']) = some (token, quoting, rest ++ ['$']) := by
  cases text with
  | nil => exact single_token_dollar read
  | cons char text =>
      simp only [List.cons_append, readEscape] at read ⊢
      split_ifs at read ⊢
      · cases read
        rfl
      · cases read
        rfl
      · cases read
        rfl
      · cases read
        rfl
      · cases read
        rfl
      · exact single_token_dollar read

theorem next_quoted_dollar :
    nextQuoted lexicon char (text ++ ['$']) =
      ((nextQuoted lexicon char text).1, (nextQuoted lexicon char text).2.1,
        (nextQuoted lexicon char text).2.2 ++ ['$']) := by
  cases text with
  | nil => simp [nextQuoted]
  | cons second text =>
      simp only [List.cons_append, nextQuoted]
      split <;> rfl

theorem next_unquoted_dollar (after : Bool)
    (read : nextUnquoted lexicon char text = some (token, after, rest)) :
    nextUnquoted lexicon char (text ++ ['$']) = some (token, after, rest ++ ['$']) := by
  unfold nextUnquoted at read ⊢
  generalize operator char = simple at read ⊢
  generalize repetition char = repeating at read ⊢
  cases simple with
  | some found =>
      cases read
      rfl
  | none =>
      cases repeating with
      | some count =>
          cases read
          simp only [drop_lazy_dollar]
      | none =>
          simp only at read ⊢
          split_ifs at read ⊢
          · rcases Option.map_eq_some_iff.mp read with ⟨found, group, same⟩
            cases same
            rw [read_group_dollar group]
            rfl
          · rcases Option.map_eq_some_iff.mp read with ⟨found, count, same⟩
            cases same
            rw [read_count_dollar count]
            rfl
          · exact read_escape_dollar read
          · exact single_token_dollar read
          · cases read
            rfl

theorem next_dollar (after : Bool)
    (read : next lexicon quoting char text = some (token, after, rest)) :
    next lexicon quoting char (text ++ ['$']) = some (token, after, rest ++ ['$']) := by
  cases quoting with
  | true =>
      have same : nextQuoted lexicon char text = (token, after, rest) := Option.some.inj read
      change some (nextQuoted lexicon char (text ++ ['$'])) = _
      rw [next_quoted_dollar, same]
  | false => exact next_unquoted_dollar after read

theorem tokens_only_dollar (fuel : Nat) (quoting : Bool) :
    tokens lexicon (fuel + 1) quoting ['$'] =
      some ([if quoting then literal lexicon '$' else dollar], quoting) := by
  cases fuel <;> cases quoting <;> rfl

theorem tokens_dollar (fuel : Nat) (quoting : Bool) (text : List Char) (list : List Token)
    (after : Bool) (read : tokens lexicon fuel quoting text = some (list, after)) :
    tokens lexicon (fuel + 1) quoting (text ++ ['$']) =
      some (list ++ [if after then literal lexicon '$' else dollar], after) := by
  induction fuel generalizing quoting text list with
  | zero =>
      cases text with
      | nil =>
          cases read
          exact tokens_only_dollar 0 after
      | cons char text => cases read
  | succ fuel ih =>
      cases text with
      | nil =>
          cases read
          exact tokens_only_dollar (fuel + 1) after
      | cons char text =>
          rw [tokens] at read
          rw [List.cons_append, tokens]
          cases first : next lexicon quoting char text with
          | none =>
              rw [first] at read
              cases read
          | some found =>
              rw [first] at read
              rcases Option.map_eq_some_iff.mp read with ⟨more, later, same⟩
              cases same
              rw [next_dollar found.2.1 first]
              simp only [ih _ _ _ later, Option.map_some, List.cons_append]

end

structure Branches where
  complete : List (List Regex)
  current : List Regex

def Branches.all (branches : Branches) : List (List Regex) :=
  branches.complete ++ [branches.current]

def Branches.push (branches : Branches) (item : Regex) : Branches :=
  { branches with current := branches.current ++ [item] }

structure Parser where
  flags : Flags
  outer : List (Flags × Branches)
  inner : Branches
  afterRepeat : Bool

def Parser.start : Parser := ⟨⟨false, false, false⟩, [], ⟨[], []⟩, false⟩

def Parser.push (parser : Parser) (item : Regex) : Parser :=
  { parser with inner := parser.inner.push item, afterRepeat := false }

def Parser.step (parser : Parser) : Token → Option Parser
  | .single accepts => some (parser.push (.char (accepts parser.flags)))
  | .assertion kind => some (parser.push (.assertion (kind parser.flags)))
  | .bar => some { parser with inner := ⟨parser.inner.all, []⟩, afterRepeat := false }
  | .open change =>
      some ⟨change parser.flags, (parser.flags, parser.inner) :: parser.outer, ⟨[], []⟩, false⟩
  | .close =>
      match parser.outer with
      | [] => none
      | (flags, around) :: outer =>
          some ⟨flags, outer, around.push (ofBranches parser.inner.all), false⟩
  | .setFlags change => some { parser with flags := change parser.flags, afterRepeat := false }
  | .repeat min max =>
      match parser.inner.current.getLast? with
      | none => none
      | some item =>
          -- Two repetitions may not follow each other.
          if parser.afterRepeat then none
          else some { parser with
            inner := { parser.inner with
              current := parser.inner.current.dropLast ++ [.repeated min max item] }
            afterRepeat := true }

/-- The branches of a pattern at its top level, the flags at its end and whether a quotation
is open there. -/
structure Pattern where
  branches : Branches
  flags : Flags
  quoting : Bool

def parse (lexicon : Lexicon) (text : List Char) : Option Pattern :=
  match tokens lexicon text.length false text with
  | none => none
  | some (list, quoting) =>
      match list.foldlM Parser.step Parser.start with
      | some ⟨flags, [], branches, _⟩ => some ⟨branches, flags, quoting⟩
      | _ => none

def Pattern.regex (pattern : Pattern) : Regex := ofBranches pattern.branches.all

def matchString (lexicon : Lexicon) (pattern value : String) : Except String Bool :=
  match parse lexicon pattern.toList with
  | none => .error "error parsing regexp"
  | some parsed => .ok (parsed.regex.search value.toList)

def Branches.prefixed (item : Regex) : Branches → Branches
  | ⟨[], current⟩ => ⟨[], item :: current⟩
  | ⟨first :: more, current⟩ => ⟨(item :: first) :: more, current⟩

variable {branches : Branches} {lexicon : Lexicon} {pattern : Pattern} {item : Regex}

theorem push_prefixed (item other : Regex) :
    (branches.push other).prefixed item = (branches.prefixed item).push other := by
  rcases branches with ⟨_ | ⟨first, more⟩, current⟩ <;> rfl

theorem bar_prefixed :
    Branches.prefixed item ⟨branches.all, []⟩ = ⟨(branches.prefixed item).all, []⟩ := by
  rcases branches with ⟨_ | ⟨first, more⟩, current⟩ <;> rfl

theorem current_prefixed (item last : Regex) (found : branches.current.getLast? = some last) :
    (branches.prefixed item).current.getLast? = some last := by
  rcases branches with ⟨_ | ⟨first, more⟩, current⟩
  · simp only [Branches.prefixed, List.getLast?_cons] at found ⊢
    rw [found]
    rfl
  · exact found

theorem replaced_prefixed (item last other : Regex)
    (found : branches.current.getLast? = some last) :
    Branches.prefixed item ⟨branches.complete, branches.current.dropLast ++ [other]⟩ =
      ⟨(branches.prefixed item).complete,
        (branches.prefixed item).current.dropLast ++ [other]⟩ := by
  rcases branches with ⟨_ | ⟨first, more⟩, _ | ⟨head, current⟩⟩
  · cases found
  · rfl
  · rfl
  · rfl

def prefixOuter (item : Regex) : List (Flags × Branches) → List (Flags × Branches)
  | [] => []
  | [frame] => [(frame.1, frame.2.prefixed item)]
  | frame :: other :: outer => frame :: prefixOuter item (other :: outer)

def Parser.prefixed (item : Regex) (parser : Parser) : Parser :=
  match parser.outer with
  | [] => { parser with inner := parser.inner.prefixed item }
  | frame :: outer => { parser with outer := prefixOuter item (frame :: outer) }

theorem step_prefixed (item : Regex) (token : Token) (parser after : Parser)
    (stepped : parser.step token = some after) :
    (parser.prefixed item).step token = some (after.prefixed item) := by
  rcases parser with ⟨flags, outer, inner, afterRepeat⟩
  cases token with
  | single accepts | assertion kind =>
      cases stepped
      cases outer <;> simp [Parser.prefixed, Parser.step, Parser.push, push_prefixed]
  | bar =>
      cases stepped
      cases outer <;> simp [Parser.prefixed, Parser.step, bar_prefixed]
  | «open» change =>
      cases stepped
      cases outer <;> rfl
  | close =>
      rcases outer with _ | ⟨frame, _ | ⟨other, outer⟩⟩
      · cases stepped
      · cases stepped
        simp [Parser.prefixed, Parser.step, prefixOuter, push_prefixed]
      · cases stepped
        rfl
  | setFlags change =>
      cases stepped
      cases outer <;> rfl
  | «repeat» min max =>
      simp only [Parser.step] at stepped
      cases found : inner.current.getLast? with
      | none =>
          rw [found] at stepped
          cases stepped
      | some last =>
          rw [found] at stepped
          simp only at stepped
          split_ifs at stepped with again
          cases stepped
          cases outer with
          | nil =>
              simp [Parser.prefixed, Parser.step, current_prefixed item last found, again,
                replaced_prefixed item last _ found]
          | cons frame outer => simp [Parser.prefixed, Parser.step, found, again]

theorem run_prefixed (list : List Token) (parser after : Parser)
    (run : list.foldlM Parser.step parser = some after) :
    list.foldlM Parser.step (parser.prefixed item) = some (after.prefixed item) := by
  induction list generalizing parser with
  | nil =>
      cases run
      rfl
  | cons token list ih =>
      rw [List.foldlM_cons] at run ⊢
      rcases Option.bind_eq_some_iff.mp run with ⟨middle, stepped, later⟩
      rw [step_prefixed item token parser middle stepped]
      exact ih middle later

def Pattern.ending (lexicon : Lexicon) (pattern : Pattern) : Regex :=
  if pattern.quoting then
    .char fun other => other = '$' || pattern.flags.foldCase && lexicon.folds '$' other
  else .assertion (if pattern.flags.multiLine then .endLine else .endText)

def Pattern.anchored (lexicon : Lexicon) (pattern : Pattern) : Pattern :=
  { pattern with branches :=
      (pattern.branches.push (pattern.ending lexicon)).prefixed (.assertion .beginText) }

theorem step_ending (parser : Parser) (flags : parser.flags = pattern.flags) :
    parser.step (if pattern.quoting then literal lexicon '$' else dollar) =
      some (parser.push (pattern.ending lexicon)) := by
  rcases parser with ⟨_, outer, inner, again⟩
  cases flags
  rcases pattern with ⟨branches, flags, _ | _⟩ <;> rfl

theorem parse_eq_some_iff (text : List Char) :
    parse lexicon text = some pattern ↔
      ∃ list again, tokens lexicon text.length false text = some (list, pattern.quoting) ∧
        list.foldlM Parser.step Parser.start =
          some ⟨pattern.flags, [], pattern.branches, again⟩ := by
  constructor
  · intro parsed
    unfold parse at parsed
    split at parsed
    · cases parsed
    · rename_i list quoting read
      split at parsed
      · rename_i flags branches again run
        cases parsed
        exact ⟨list, again, read, run⟩
      · cases parsed
  · intro found
    rcases found with ⟨list, again, read, run⟩
    rw [parse, read]
    simp only [run]

theorem parse_anchored (lexicon : Lexicon) (text : List Char) (pattern : Pattern)
    (parsed : parse lexicon text = some pattern) :
    parse lexicon ('^' :: text ++ ['$']) = some (pattern.anchored lexicon) := by
  rcases (parse_eq_some_iff text).mp parsed with ⟨list, again, read, run⟩
  have first : next lexicon false '^' (text ++ ['$']) = some (caret, false, text ++ ['$']) := rfl
  have begun : Parser.start.step caret =
      some (Parser.start.prefixed (.assertion .beginText)) := rfl
  apply (parse_eq_some_iff _).mpr
  refine ⟨caret :: (list ++ [if pattern.quoting then literal lexicon '$' else dollar]), false,
    ?_, ?_⟩
  · have length : ('^' :: text ++ ['$']).length = text.length + 1 + 1 := by simp
    rw [length, List.cons_append, tokens, first]
    simp only [tokens_dollar _ _ _ _ _ read]
    rfl
  · rw [List.foldlM_cons, begun]
    change (list ++ _).foldlM Parser.step _ = _
    rw [List.foldlM_append, run_prefixed list _ _ run]
    change [_].foldlM Parser.step _ = _
    rw [List.foldlM_cons, step_ending _ rfl]
    change some _ = some _
    rw [Pattern.anchored, push_prefixed]
    rfl

end CleanRoom.Regexp
