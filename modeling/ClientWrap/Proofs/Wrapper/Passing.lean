import ClientWrap.Proofs.Code.Bodies
import ClientWrap.Proofs.Wrapper.Printing

/-!
# Passing calls on

The code of a method of a wrapper is to call the wrapped method once, with all parameters
(`Method.CallsOnce`), and to give back what that call gives (`Method.GivesBack`). Code that passes
the call on after words which name nothing of what is wrapped does both
(`Method.IsValid.callsOnce_passOn`).
-/

namespace ClientWrap

open ClientWrap.Code ClientWrap.Text Token

namespace Method

/-- The last parameter of the method stands for the remaining arguments. -/
def TakesRest (m : Method) : Prop :=
  ∃ element, m.params.getLast? = some (.variadic element)

/-- The methods that take the remaining arguments are the variadic ones. -/
theorem isVariadic_iff_takesRest (m : Method) :
  m.isVariadic = true ↔ m.TakesRest
  := by
  rw [isVariadic, TakesRest]
  cases m.params.getLast? with
  | none => simp
  | some t => cases t <;> simp [GoType.isVariadic]

instance (m : Method) : Decidable m.TakesRest :=
  decidable_of_iff _ m.isVariadic_iff_takesRest

/-- The arguments that pass all parameters on, the last one as the remaining arguments if it stands
for them. -/
def forwarded (m : Method) : List (List Token) :=
  (List.range m.params.length).map fun i =>
    [word (argName i ++ if m.TakesRest ∧ i + 1 = m.params.length then "..." else "")]

/-- The name of the wrapped method. -/
def innerName (m : Method) : String :=
  "c.inner." ++ m.name

/-- The call of the wrapped method with all parameters. -/
def innerTokens (m : Method) : List Token :=
  word m.innerName :: mark '(' :: (commaTokens m.forwarded ++ [mark ')'])

/-- The names of all results. -/
def retTokens (m : Method) : List Token :=
  commaTokens ((List.range m.results.length).map fun i => [word (retName i)])

/-- The token is the name of a method of what is wrapped. -/
def NamesInner (t : Token) : Prop :=
  ∃ name, t = word name ∧ BeginsWith "c.inner." name

/-- The code names a method of what is wrapped once, and calls it there with all parameters. -/
structure CallsOnce (m : Method) (ts : List Token) : Prop where
  name : ∃ before after, ts = before ++ word m.innerName :: after
    ∧ ∀ t ∈ before ++ after, ¬ NamesInner t
  call : (calls ts).filter (fun call => BeginsWith "c.inner." call.1) = [(m.innerName, m.forwarded)]

/-- The definition of the names of all results by the call of the wrapped method. -/
def definitionTokens (m : Method) : List Token :=
  m.retTokens ++ mark ':' :: mark '=' :: m.innerTokens

/-- The code gives back nothing if the method has no results. Otherwise it ends in its only return,
of the call or of the names of all results after their definition. -/
def GivesBack (m : Method) (ts : List Token) : Prop :=
  if m.results = [] then word "return" ∉ ts
  else
    ∃ before given, ts = before ++ word "return" :: given ∧ word "return" ∉ before ++ given
      ∧ (given = m.innerTokens ∨ given = m.retTokens ∧ m.definitionTokens <:+: before)

end Method

/-! ### Arguments -/

namespace Method

variable {m : Method}

/-- A parameter of a valid method stands for the remaining arguments exactly if the method takes
them and the parameter is the last one. -/
theorem IsValid.isVariadic_iff (h : m.IsValid) {i : ℕ} (hi : i < m.params.length) :
  m.params[i].isVariadic = true ↔ m.TakesRest ∧ i + 1 = m.params.length
  := by
  rw [← isVariadic_iff_takesRest]
  by_cases hlast : i + 1 = m.params.length
  · have hget : m.params.getLast? = some m.params[i] := by
      rw [List.getLast?_eq_getElem?, ← hlast, Nat.add_sub_cancel, List.getElem?_eq_getElem hi]
    rw [isVariadic, hget]
    exact ⟨fun h => ⟨h, hlast⟩, fun h => h.1⟩
  · have hmem : m.params[i] ∈ m.params.dropLast := by
      rw [List.mem_iff_getElem]
      have hi' : i < m.params.dropLast.length := by
        rw [List.length_dropLast]
        omega
      use i, hi'
      apply List.getElem_dropLast
    constructor
    · intro hvariadic
      apply absurd hvariadic (h.params _ hmem)
    · rintro ⟨-, h⟩
      contradiction

/-- The arguments of a valid method are read as those that pass its parameters on. -/
theorem IsValid.tokens_args (h : m.IsValid) :
  Expr.tokensEach m.args = m.forwarded
  := by
  rw [Expr.tokensEach_eq_map, args, List.map_map]
  apply List.ext_getElem
  · simp [forwarded]
  · intro i hi hi'
    have hi : i < m.params.length := by simpa using hi
    have hvariadic := h.isVariadic_iff hi
    simp only [List.getElem_map, List.getElem_zipIdx, Function.comp_apply, forwarded,
      List.getElem_range, Nat.zero_add, ← hvariadic]
    split <;> simp [Expr.tokens, Expr.text]

/-- The name of a parameter is a word. -/
theorem isWord_argName (i : ℕ) :
  IsWord (argName i)
  := isWord_of_isIdentifier (isIdentifier_argName i)

/-- The arguments that pass parameters on are readable. -/
theorem readable_args :
  Expr.ReadableAll m.args
  := by
  rw [Expr.readableAll_iff]
  intro e he
  obtain ⟨⟨t, i⟩, -, rfl⟩ := List.mem_map.mp he
  have hname := isWord_argName i
  simp only
  split
  · constructor
    · apply mt (congrArg String.toList)
      simp [Expr.text]
    · have hdots : "...".toList.all isWordChar := by decide
      rw [Expr.text, Expr.text, String.toList_append, List.all_append, hname.2, hdots]
      rfl
  · apply hname

/-- The method of what is wrapped is selected by its name. -/
theorem text_inner (m : Method) :
  (Expr.select (.select (.name "c") "inner") m.name).text = m.innerName
  := rfl

/-- The name of the wrapped method is a word. -/
theorem IsValid.isWord_innerName (h : m.IsValid) :
  IsWord m.innerName
  := by
  have hname := isWord_of_isIdentifier (isIdentifier_of_isExported h.exported)
  have hinner : "c.inner".toList.all isWordChar := by decide
  exact isWord_selected hinner hname.2

/-- The call of the wrapped method is readable. -/
theorem IsValid.readable_innerCall (h : m.IsValid) :
  (m.innerCall m.args).Readable
  := ⟨h.isWord_innerName, readable_args⟩

/-- Passing a call on is readable. -/
theorem IsValid.readable_passOn (h : m.IsValid) :
  m.passOn.Readable
  := by
  rw [passOn]
  split
  · apply h.readable_innerCall
  · exact ⟨h.readable_innerCall, trivial⟩

/-- The call of the wrapped method is read as its name and the arguments that pass the parameters
on. -/
theorem IsValid.tokens_innerCall (h : m.IsValid) :
  (m.innerCall m.args).tokens = m.innerTokens
  := by
  rw [innerCall, Expr.tokens, h.tokens_args, innerTokens, text_inner]

/-- The call of the wrapped method uses nothing else. -/
theorem IsValid.uses_innerCall (h : m.IsValid) :
  (m.innerCall m.args).uses = [.call m.innerName m.forwarded]
  := by
  have hargs : Expr.usesAll m.args = [] := by
    rw [Expr.usesAll_eq_flatMap, List.flatMap_eq_nil_iff]
    intro e he
    obtain ⟨⟨t, i⟩, -, rfl⟩ := List.mem_map.mp he
    simp only
    split <;> rfl
  rw [innerCall, Expr.uses, h.tokens_args, hargs, text_inner]

/-- Passing a call on is to call the wrapped method, after a return if there are results. -/
theorem IsValid.tokens_passOn (h : m.IsValid) :
  m.passOn.tokens = if m.results = [] then m.innerTokens else word "return" :: m.innerTokens
  := by
  simp only [passOn, List.isEmpty_iff]
  split
  · apply h.tokens_innerCall
  · rw [Step.tokens, Expr.tokensEach, Expr.tokensEach, h.tokens_innerCall, commaTokens,
      List.intercalate_singleton]

/-- Passing a call on uses the wrapped method only. -/
theorem IsValid.uses_passOn (h : m.IsValid) :
  m.passOn.uses = [.call m.innerName m.forwarded]
  := by
  rw [passOn]
  split
  · apply h.uses_innerCall
  · rw [Step.uses, Expr.usesAll, Expr.usesAll, h.uses_innerCall, List.append_nil]

/-- The names of the results are words with commas between them. -/
theorem tokens_rets :
  nameTokens m.rets = m.retTokens
  := by
  rw [nameTokens_eq, rets, List.map_map]
  rfl

end Method

/-! ### Words of a body -/

section

variable {w : String} {ts us : List Token} {m : Method}

/-- A token among others with commas between them is a comma or one of them. -/
theorem mem_commaTokens {t : Token} {tss : List (List Token)} (h : t ∈ commaTokens tss) :
  t = mark ',' ∨ ∃ ts ∈ tss, t ∈ ts
  := by
  induction tss with
  | nil => contradiction
  | cons ts tss ih =>
      cases tss with
      | nil =>
          rw [commaTokens, List.intercalate_singleton] at h
          exact Or.inr ⟨ts, List.mem_singleton_self ts, h⟩
      | cons us tss =>
          rw [commaTokens, List.intercalate_cons_cons, ← commaTokens, List.append_assoc,
            List.mem_append, List.mem_append, List.mem_singleton] at h
          rcases h with h | h | h
          · exact Or.inr ⟨ts, List.mem_cons_self, h⟩
          · exact Or.inl h
          · apply (ih h).imp_right
            rintro ⟨ts', hts', h⟩
            exact ⟨ts', List.mem_cons_of_mem ts hts', h⟩

/-- The words of the arguments begin with `arg`. -/
theorem Method.beginsWith_of_mem_forwarded (h : word w ∈ commaTokens m.forwarded) :
  BeginsWith "arg" w
  := by
  rcases mem_commaTokens h with h | ⟨ts, hts, h⟩
  · contradiction
  · obtain ⟨i, -, rfl⟩ := List.mem_map.mp hts
    rw [Token.word.inj (List.mem_singleton.mp h)]
    apply (beginsWith_append "arg" i.repr).append

/-- The words among the names of results are these names. -/
theorem Method.exists_of_mem_retTokens (h : word w ∈ m.retTokens) :
  ∃ i, w = retName i
  := by
  rcases mem_commaTokens h with h | ⟨ts, hts, h⟩
  · contradiction
  · obtain ⟨i, -, rfl⟩ := List.mem_map.mp hts
    exact ⟨i, Token.word.inj (List.mem_singleton.mp h)⟩

/-- The names of results begin with `ret`. -/
theorem Method.beginsWith_retName (i : ℕ) :
  BeginsWith "ret" (retName i)
  := beginsWith_append "ret" i.repr

/-- No name of a result is the word that gives results back: digits follow `ret` in it. -/
theorem Method.retName_ne_return (i : ℕ) :
  retName i ≠ "return"
  := by
  intro h
  have hdigits : i.repr.toList = "urn".toList := by
    have hchars := congrArg String.toList h
    change ("ret" ++ i.repr).toList = _ at hchars
    rw [String.toList_append] at hchars
    apply (List.append_right_inj "ret".toList).mp hchars
  rw [Nat.toList_repr] at hdigits
  have hdigit : 'u' ∈ Nat.toDigits 10 i := by
    rw [hdigits]
    decide
  have := Nat.isDigit_of_mem_toDigits (by decide) (by decide) hdigit
  contradiction

/-- A name of another package has one dot. -/
theorem count_qualified (package : String) {id : String} (h : '.' ∉ id.toList) :
  (Naming.packageAlias package ++ "." ++ id).toList.count '.' = 1
  := by
  have halias : '.' ∉ (Naming.packageAlias package).toList := by
    intro hmem
    rw [Naming.packageAlias, String.toList_ofList] at hmem
    have := List.all_eq_true.mp (Naming.aliasChars_all package.toList) '.' hmem
    contradiction
  rw [String.toList_append, String.toList_append, List.count_append, List.count_append,
    List.count_eq_zero.mpr halias, List.count_eq_zero.mpr h]
  decide

/-- A name of another package is none of what is wrapped, whose methods have two dots in their
names. -/
theorem not_beginsWith_qualified (package : String) {id : String} (h : '.' ∉ id.toList) :
  ¬ BeginsWith "c.inner." (Naming.packageAlias package ++ "." ++ id)
  := by
  intro hinner
  have hcount := hinner.count_le '.'
  rw [count_qualified package h] at hcount
  contradiction

/-- A name of another package is no name without a dot. -/
theorem qualified_ne (package : String) {id w : String} (h : '.' ∉ id.toList) (hw : '.' ∉ w.toList) :
  Naming.packageAlias package ++ "." ++ id ≠ w
  := by
  rintro rfl
  have hcount := count_qualified package h
  rw [List.count_eq_zero.mpr hw] at hcount
  contradiction

/-- The word is no name of a method of what is wrapped, and it neither begins a return nor a
condition. -/
structure Plain (w : String) : Prop where
  inner : ¬ BeginsWith "c.inner." w
  ne_return : w ≠ "return"
  ne_if : w ≠ "if"

/-- A name of another package is plain. -/
theorem plain_qualified (package : String) {id : String} (h : '.' ∉ id.toList) :
  Plain (Naming.packageAlias package ++ "." ++ id)
  := ⟨not_beginsWith_qualified package h, qualified_ne package h (by decide),
    qualified_ne package h (by decide)⟩

/-- The name of a parameter is plain. -/
theorem plain_of_beginsWith_arg (h : BeginsWith "arg" w) :
  Plain w
  := by
  constructor
  · apply h.not_beginsWith (by decide) (by decide)
  · rintro rfl
    revert h
    decide
  · rintro rfl
    revert h
    decide

/-- What is selected from a result is plain. -/
theorem plain_selected (hret : BeginsWith "ret" w) (hdot : '.' ∈ w.toList) :
  Plain w
  := by
  constructor
  · apply hret.not_beginsWith (by decide) (by decide)
  · rintro rfl
    revert hdot
    decide
  · rintro rfl
    revert hdot
    decide

/-- The name of a result is plain. -/
theorem plain_retName (i : ℕ) :
  Plain (Method.retName i)
  := by
  have hret := Method.beginsWith_retName i
  constructor
  · apply hret.not_beginsWith (by decide) (by decide)
  · apply Method.retName_ne_return
  · intro h
    rw [h] at hret
    revert hret
    decide

/-- All words of the code are plain. -/
def PlainIn (ts : List Token) : Prop :=
  ∀ w, word w ∈ ts → Plain w

/-- Code of plain words stays plain when more of it follows. -/
theorem PlainIn.append (hts : PlainIn ts) (hus : PlainIn us) :
  PlainIn (ts ++ us)
  := by
  intro w hw
  rcases List.mem_append.mp hw with hw | hw
  · apply hts w hw
  · apply hus w hw

/-- Plain code does not name what is wrapped. -/
theorem PlainIn.not_namesInner (h : PlainIn ts) :
  ∀ t ∈ ts, ¬ Method.NamesInner t
  := by
  rintro t ht ⟨w, rfl, hinner⟩
  apply (h w ht).inner hinner

/-- Plain code gives nothing back. -/
theorem PlainIn.not_mem_return (h : PlainIn ts) :
  word "return" ∉ ts
  := by
  intro hmem
  apply (h _ hmem).ne_return rfl

/-- Plain code has no conditions. -/
theorem PlainIn.not_mem_if (h : PlainIn ts) :
  word "if" ∉ ts
  := by
  intro hmem
  apply (h _ hmem).ne_if rfl

/-- The names of results are plain. -/
theorem plainIn_retTokens (m : Method) :
  PlainIn m.retTokens
  := by
  intro w hw
  obtain ⟨i, rfl⟩ := Method.exists_of_mem_retTokens hw
  apply plain_retName

/-- The tokens of the call of the wrapped method are its name and plain ones. -/
theorem Method.plainIn_innerTokens_tail (m : Method) :
  PlainIn (mark '(' :: (commaTokens m.forwarded ++ [mark ')']))
  := by
  intro w hw
  have hw : word w ∈ commaTokens m.forwarded := by simpa using hw
  apply plain_of_beginsWith_arg (beginsWith_of_mem_forwarded hw)

/-- A word that is not plain is in the call of the wrapped method only if it begins as its name
does. -/
theorem Method.not_mem_innerTokens (m : Method) {w : String} (hlead : ¬ BeginsWith "c" w)
    (hplain : ¬ Plain w) :
  word w ∉ m.innerTokens
  := by
  intro hw
  rcases List.mem_cons.mp hw with hname | hw
  · apply hlead
    rw [Token.word.inj hname]
    apply (beginsWith_append "c" ".inner.").append
  · apply hplain (m.plainIn_innerTokens_tail w hw)

/-- The call of the wrapped method gives nothing back itself. -/
theorem Method.return_not_mem_innerTokens (m : Method) :
  word "return" ∉ m.innerTokens
  := m.not_mem_innerTokens (by decide) fun h => h.ne_return rfl

/-- The call of the wrapped method has no conditions. -/
theorem Method.if_not_mem_innerTokens (m : Method) :
  word "if" ∉ m.innerTokens
  := m.not_mem_innerTokens (by decide) fun h => h.ne_if rfl

/-- The wrapped method is named once in code that calls it among plain words. -/
theorem Method.exists_name (m : Method) {before after : List Token}
    (hbefore : ∀ t ∈ before, ¬ NamesInner t) (hafter : ∀ t ∈ after, ¬ NamesInner t) :
  ∃ before' after', before ++ m.innerTokens ++ after = before' ++ word m.innerName :: after'
    ∧ ∀ t ∈ before' ++ after', ¬ NamesInner t
  := by
  use before, mark '(' :: (commaTokens m.forwarded ++ [mark ')']) ++ after
  constructor
  · rw [innerTokens, List.append_assoc]
    rfl
  · rw [List.forall_mem_append, List.forall_mem_append]
    exact ⟨hbefore, m.plainIn_innerTokens_tail.not_namesInner, hafter⟩

end

/-! ### Bodies -/

namespace Method

variable {m : Method} {ts before after : List Token}

/-- Code that passes the call on after plain words gives back what the call gives. -/
theorem givesBack_passOn (h : m.IsValid) (hbefore : PlainIn before) :
  m.GivesBack (before ++ m.passOn.tokens)
  := by
  rw [GivesBack, h.tokens_passOn]
  split
  · rw [List.mem_append, not_or]
    exact ⟨hbefore.not_mem_return, m.return_not_mem_innerTokens⟩
  · use before, m.innerTokens, rfl
    rw [List.mem_append, not_or]
    exact ⟨⟨hbefore.not_mem_return, m.return_not_mem_innerTokens⟩, Or.inl rfl⟩

/-- Code that defines the results by the call and returns them gives back what the call gives. -/
theorem givesBack_rets (hresults : m.results ≠ []) (hbefore : word "return" ∉ before)
    (hafter : word "return" ∉ after) :
  m.GivesBack (before ++ m.definitionTokens ++ after ++ word "return" :: m.retTokens)
  := by
  rw [GivesBack, if_neg hresults]
  use before ++ m.definitionTokens ++ after, m.retTokens, rfl
  have hrets := (plainIn_retTokens m).not_mem_return
  have hinner := m.return_not_mem_innerTokens
  constructor
  · simp [definitionTokens, hbefore, hafter, hrets, hinner]
  · exact Or.inr ⟨rfl, before, after, rfl⟩

end Method

/-! ### Calls of a body -/

namespace Method

variable {m : Method}

/-- The calls of methods of what is wrapped. -/
def innerCalls (us : List Use) : List (String × List (List Token)) :=
  (us.filterMap Use.call?).filter fun call => BeginsWith "c.inner." call.1

/-- The calls of what is wrapped are those of the parts in turn. -/
theorem innerCalls_append (us us' : List Use) :
  innerCalls (us ++ us') = innerCalls us ++ innerCalls us'
  := by
  rw [innerCalls, List.filterMap_append, List.filter_append]
  rfl

/-- A call of something else is none of what is wrapped. -/
theorem innerCalls_cons {name : String} {args : List (List Token)} {us : List Use}
    (h : ¬ BeginsWith "c.inner." name) :
  innerCalls (.call name args :: us) = innerCalls us
  := by
  simp [innerCalls, Use.call?, h]

/-- The call of the wrapped method is one of what is wrapped. -/
theorem innerCalls_inner (m : Method) :
  innerCalls [.call m.innerName m.forwarded] = [(m.innerName, m.forwarded)]
  := by
  simp [innerCalls, Use.call?, innerName, beginsWith_append]

/-- Code in which the wrapped method is called among words that name no method of what is
wrapped. -/
theorem callsOnce_of_uses {ts : List Token} {us : List Use} (before after : List Token)
    (hts : ts = before ++ m.innerTokens ++ after) (hbefore : ∀ t ∈ before, ¬ NamesInner t)
    (hafter : ∀ t ∈ after, ¬ NamesInner t) (huses : uses ts = us)
    (hcalls : innerCalls us = [(m.innerName, m.forwarded)]) :
  m.CallsOnce ts
  := by
  constructor
  · rw [hts]
    apply m.exists_name hbefore hafter
  · rw [calls, huses]
    apply hcalls

/-- A body that passes the call on after plain words. -/
theorem IsValid.callsOnce_passOn (h : m.IsValid) {ts before : List Token} {us : List Use}
    (hts : ts = before ++ m.passOn.tokens) (hbefore : PlainIn before)
    (huses : uses ts = us ++ m.passOn.uses) (hcalls : innerCalls us = []) :
  m.CallsOnce ts ∧ m.GivesBack ts
  := by
  constructor
  · have hcalls : innerCalls (us ++ m.passOn.uses) = [(m.innerName, m.forwarded)] := by
      rw [innerCalls_append, hcalls, h.uses_passOn, innerCalls_inner, List.nil_append]
    rw [h.tokens_passOn] at hts
    split at hts
    · apply callsOnce_of_uses before [] _ hbefore.not_namesInner (by simp) huses hcalls
      rw [hts, List.append_nil]
    · apply callsOnce_of_uses (before ++ [word "return"]) [] _ _ (by simp) huses hcalls
      · rw [hts, List.append_nil, List.append_assoc]
        rfl
      · rw [List.forall_mem_append, List.forall_mem_singleton]
        use hbefore.not_namesInner
        rintro ⟨name, hname, hinner⟩
        rw [← Token.word.inj hname] at hinner
        revert hinner
        decide
  · rw [hts]
    apply givesBack_passOn h hbefore

/-- The code of a body as its lines are read. -/
def codeOf (f : Func) : List Token :=
  tokens (ofLines f.bodyLines)

/-- The code of a body with readable statements is read as their tokens. -/
theorem codeOf_eq {f : Func} (h : ∀ s ∈ f.body, s.Readable) :
  codeOf f = f.body.flatMap Stmt.tokens
  := f.tokens_bodyLines h

/-- The code of a body with readable statements uses what they use. -/
theorem uses_codeOf {f : Func} (h : ∀ s ∈ f.body, s.Readable) :
  uses (codeOf f) = f.body.flatMap Stmt.uses
  := f.uses_bodyLines h

end Method

end ClientWrap
