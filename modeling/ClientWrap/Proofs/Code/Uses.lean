import ClientWrap.Proofs.Code.Tokens

/-!
# Calls and struct literals

A reader of tokens finds the calls and the struct literals in a piece of code, with the tokens of
each argument or entry (`uses`). It knows brackets and commas only.

What is between brackets is found again if each entry is `Whole`: it opens and closes its own
brackets and has no comma outside of them (`entries_commaTokens`, `entries_trailing`).
-/

namespace ClientWrap.Code

open ClientWrap.Text

/-! ### The reader -/

/-- A call of a function with its arguments, or a pointer to a new value of a struct with its
entries. -/
inductive Use where
  | call (name : String) (args : List (List Token))
  | fresh (type : String) (entries : List (List Token))
  deriving DecidableEq

/-- The name and the arguments of a call. -/
def Use.call? : Use → Option (String × List (List Token))
  | call name args => some (name, args)
  | fresh _ _ => none

/-- The type and the entries of a struct literal. -/
def Use.fresh? : Use → Option (String × List (List Token))
  | call _ _ => none
  | fresh type entries => some (type, entries)

namespace Token

/-- The token opens a bracket. -/
def Opens (t : Token) : Prop :=
  t = mark '(' ∨ t = mark '[' ∨ t = mark '\x7b'

/-- The token closes a bracket. -/
def Closes (t : Token) : Prop :=
  t = mark ')' ∨ t = mark ']' ∨ t = mark '\x7d'

instance : DecidablePred Opens :=
  fun t => inferInstanceAs (Decidable (t = mark '(' ∨ t = mark '[' ∨ t = mark '\x7b'))

instance : DecidablePred Closes :=
  fun t => inferInstanceAs (Decidable (t = mark ')' ∨ t = mark ']' ∨ t = mark '\x7d'))

end Token

open Token

/-- What stands between the commas up to the closing bracket, inside `depth` further brackets and
after the tokens `entry`. A comma may stand before the closing bracket. -/
def entriesFrom (depth : ℕ) (entry : List Token) : List Token → List (List Token)
  | [] => [entry]
  | t :: rest =>
    if t.Opens then entriesFrom (depth + 1) (entry ++ [t]) rest
    else if t.Closes then
      if depth = 0 then (if entry = [] then [] else [entry])
      else entriesFrom (depth - 1) (entry ++ [t]) rest
    else if t = mark ',' ∧ depth = 0 then entry :: entriesFrom 0 [] rest
    else entriesFrom depth (entry ++ [t]) rest

/-- What stands between the commas up to the closing bracket. -/
def entries (ts : List Token) : List (List Token) :=
  entriesFrom 0 [] ts

/-- The calls and struct literals in a sequence of tokens, each before those inside it. -/
def uses : List Token → List Use
  | [] => []
  | word name :: mark '(' :: rest => .call name (entries rest) :: uses rest
  | mark '&' :: word type :: mark '\x7b' :: rest => .fresh type (entries rest) :: uses rest
  | _ :: rest => uses rest

/-- The calls in a sequence of tokens. -/
def calls (ts : List Token) : List (String × List (List Token)) :=
  (uses ts).filterMap Use.call?

/-! ### Entries -/

section

variable {t : Token} {ts us rest : List Token} {depth : ℕ} {entry : List Token}

/-- A token that is no bracket and separates nothing belongs to the entry. -/
theorem entriesFrom_plain (hopens : ¬ t.Opens) (hcloses : ¬ t.Closes)
    (hcomma : ¬ (t = mark ',' ∧ depth = 0)) :
  entriesFrom depth entry (t :: rest) = entriesFrom depth (entry ++ [t]) rest
  := by
  rw [entriesFrom, if_neg hopens, if_neg hcloses, if_neg hcomma]

/-- An open bracket belongs to the entry and goes one level down. -/
theorem entriesFrom_opening (h : t.Opens) :
  entriesFrom depth entry (t :: rest) = entriesFrom (depth + 1) (entry ++ [t]) rest
  := by
  rw [entriesFrom, if_pos h]

/-- A bracket does not open and close at once. -/
theorem Token.Closes.not_opens (h : t.Closes) :
  ¬ t.Opens
  := by
  rcases h with rfl | rfl | rfl <;> decide

/-- A closing bracket below belongs to the entry and goes one level up. -/
theorem entriesFrom_closing (h : t.Closes) :
  entriesFrom (depth + 1) entry (t :: rest) = entriesFrom depth (entry ++ [t]) rest
  := by
  rw [entriesFrom, if_neg h.not_opens, if_pos h, if_neg (Nat.succ_ne_zero depth),
    Nat.add_sub_cancel]

/-- A closing bracket at the top ends the entries. -/
theorem entriesFrom_last (h : t.Closes) :
  entriesFrom 0 entry (t :: rest) = if entry = [] then [] else [entry]
  := by
  rw [entriesFrom, if_neg h.not_opens, if_pos h, if_pos rfl]

/-- A comma at the top ends an entry and begins the next one. -/
theorem entriesFrom_comma :
  entriesFrom 0 entry (mark ',' :: rest) = entry :: entriesFrom 0 [] rest
  := by
  rw [entriesFrom, if_neg (by decide), if_neg (by decide), if_pos ⟨rfl, rfl⟩]

/-- The tokens are inside a single entry if they are inside further brackets. -/
def Inside (ts : List Token) : Prop :=
  ∀ depth entry rest,
    entriesFrom (depth + 1) entry (ts ++ rest) = entriesFrom (depth + 1) (entry ++ ts) rest

/-- The tokens are inside a single entry. -/
def Whole (ts : List Token) : Prop :=
  ∀ depth entry rest,
    entriesFrom depth entry (ts ++ rest) = entriesFrom depth (entry ++ ts) rest

/-- What is whole is so inside brackets too. -/
theorem Whole.inside (h : Whole ts) :
  Inside ts
  := by
  intro depth
  apply h (depth + 1)

/-- Nothing is whole. -/
theorem whole_nil :
  Whole []
  := by
  intro depth entry rest
  rw [List.nil_append, List.append_nil]

/-- Wholes one after another are a whole. -/
theorem Whole.append (hts : Whole ts) (hus : Whole us) :
  Whole (ts ++ us)
  := by
  intro depth entry rest
  rw [List.append_assoc, hts, hus, List.append_assoc]

/-- What is whole inside brackets stays so one after another. -/
theorem Inside.append (hts : Inside ts) (hus : Inside us) :
  Inside (ts ++ us)
  := by
  intro depth entry rest
  rw [List.append_assoc, hts, hus, List.append_assoc]

/-- A token that is neither a bracket nor a comma is a whole. -/
theorem whole_singleton (hopens : ¬ t.Opens) (hcloses : ¬ t.Closes) (hcomma : t ≠ mark ',') :
  Whole [t]
  := by
  intro depth entry rest
  apply entriesFrom_plain hopens hcloses (hcomma ·.1)

/-- A word is a whole. -/
theorem whole_word (name : String) :
  Whole [word name]
  := by
  apply whole_singleton <;> simp [Opens, Closes]

/-- A literal is a whole. -/
theorem whole_literal (value : String) :
  Whole [literal value]
  := by
  apply whole_singleton <;> simp [Opens, Closes]

/-- A colon is a whole. -/
theorem whole_colon :
  Whole [mark ':']
  := by
  apply whole_singleton <;> decide

/-- A comma is whole inside brackets. -/
theorem inside_comma :
  Inside [mark ',']
  := by
  intro depth entry rest
  apply entriesFrom_plain (by decide) (by decide) (by simp)

/-- What is inside brackets is inside a single entry. -/
theorem Inside.brackets (h : Inside ts) (opening closing : Token) (hopening : opening.Opens)
    (hclosing : closing.Closes) :
  Whole (opening :: (ts ++ [closing]))
  := by
  intro depth entry rest
  rw [List.cons_append, entriesFrom_opening hopening, List.append_assoc, h, List.singleton_append,
    entriesFrom_closing hclosing]
  simp

/-- Wholes with commas between them are whole inside brackets. -/
theorem inside_commaTokens {tss : List (List Token)} (h : ∀ ts ∈ tss, Whole ts) :
  Inside (commaTokens tss)
  := by
  induction tss with
  | nil => apply whole_nil.inside
  | cons ts tss ih =>
      obtain ⟨hts, htss⟩ := List.forall_mem_cons.mp h
      cases tss with
      | nil => simpa [commaTokens] using hts.inside
      | cons us tss =>
          rw [commaTokens, List.intercalate_cons_cons, ← commaTokens]
          apply (hts.inside.append inside_comma).append (ih htss)

/-- A whole at the beginning of an entry belongs to it. -/
theorem entriesFrom_whole (hts : Whole ts) :
  entriesFrom 0 [] (ts ++ rest) = entriesFrom 0 ts rest
  := hts 0 [] rest

/-- Entries with commas between them are found up to the closing bracket. -/
theorem entries_commaTokens {tss : List (List Token)} (h : ∀ ts ∈ tss, Whole ts ∧ ts ≠ [])
    {closing : Token} (hclosing : closing.Closes) :
  entries (commaTokens tss ++ closing :: rest) = tss
  := by
  induction tss with
  | nil =>
      apply entriesFrom_last hclosing
  | cons ts tss ih =>
      obtain ⟨⟨hts, hne⟩, htss⟩ := List.forall_mem_cons.mp h
      cases tss with
      | nil =>
          rw [commaTokens, List.intercalate_singleton, entries, entriesFrom_whole hts,
            entriesFrom_last hclosing, if_neg hne]
      | cons us tss =>
          rw [commaTokens, List.intercalate_cons_cons, ← commaTokens, List.append_assoc,
            List.append_assoc, entries, entriesFrom_whole hts, List.singleton_append,
            entriesFrom_comma, ← entries, ih htss]

/-- Entries with a comma after each of them are found up to the closing bracket. -/
theorem entries_trailing {tss : List (List Token)} (h : ∀ ts ∈ tss, Whole ts) (closing : Token)
    (hclosing : closing.Closes) (rest : List Token) :
  entries ((tss.map (· ++ [mark ','])).flatten ++ closing :: rest) = tss
  := by
  induction tss with
  | nil => apply entriesFrom_last hclosing
  | cons ts tss ih =>
      obtain ⟨hts, htss⟩ := List.forall_mem_cons.mp h
      rw [List.map_cons, List.flatten_cons, List.append_assoc, List.append_assoc, entries,
        entriesFrom_whole hts, List.singleton_append, entriesFrom_comma, ← entries, ih htss]

end

/-! ### Uses -/

section

variable {t : Token} {ts us rest : List Token}

/-- No call begins with a name in front of the tokens. -/
def Apart (ts : List Token) : Prop :=
  ts.head? ≠ some (mark '(')

/-- A name that nothing follows is not called. -/
theorem apart_nil :
  Apart []
  := by
  intro h
  contradiction

/-- Tokens stand apart from a word in front of them if they do not begin with an open
parenthesis. -/
theorem apart_cons :
  Apart (t :: ts) ↔ t ≠ mark '('
  := by
  simp [Apart]

/-- A word that no parenthesis follows uses nothing. -/
theorem uses_word {name : String} (h : Apart rest) :
  uses (word name :: rest) = uses rest
  := by
  rw [uses.eq_def]
  split
  · contradiction
  · next heq =>
      obtain ⟨-, rfl⟩ := List.cons.inj heq
      contradiction
  · next heq =>
      have := (List.cons.inj heq).1
      contradiction
  · next heq => rw [(List.cons.inj heq).2]

/-- A mark other than the one of fresh structs uses nothing. -/
theorem uses_mark {c : Char} (h : c ≠ '&') :
  uses (mark c :: rest) = uses rest
  := by
  rw [uses.eq_def]
  split
  · contradiction
  · next heq =>
      have := (List.cons.inj heq).1
      contradiction
  · next heq =>
      have := Token.mark.inj (List.cons.inj heq).1
      contradiction
  · next heq => rw [(List.cons.inj heq).2]

/-- The uses of parts in a row are those of each part. -/
theorem uses_flatten {α : Type} {ts : α → List Token} {us : α → List Use}
    (hread : ∀ a rest, Apart rest → uses (ts a ++ rest) = us a ++ uses rest)
    (hapart : ∀ a rest, Apart (ts a ++ rest)) (as : List α) (h : Apart rest) :
  uses ((as.map ts).flatten ++ rest) = as.flatMap us ++ uses rest
  := by
  induction as with
  | nil => rfl
  | cons a as ih =>
      have hnext : Apart ((as.map ts).flatten ++ rest) := by
        cases as with
        | nil => apply h
        | cons b as =>
            rw [List.map_cons, List.flatten_cons, List.append_assoc]
            apply hapart
      rw [List.map_cons, List.flatten_cons, List.append_assoc, hread a _ hnext, ih,
        List.flatMap_cons, List.append_assoc]

/-- A word in front of a parenthesis is called with the entries behind it. -/
theorem uses_call (name : String) :
  uses (word name :: mark '(' :: rest) = .call name (entries rest) :: uses rest
  := rfl

/-- A struct is made of the entries behind its name. -/
theorem uses_fresh (type : String) :
  uses (mark '&' :: word type :: mark '\x7b' :: rest) = .fresh type (entries rest) :: uses rest
  := rfl

end

end ClientWrap.Code
