import ClientWrap.Proofs.Outcome
import ClientWrap.Proofs.Text.Sorted
import ClientWrap.Settings.Overrides
import Mathlib.Data.List.Induction
import Mathlib.Data.List.TakeDrop
import Mathlib.Data.List.TakeWhile
import Mathlib.Logic.Function.Basic

/-!
# Overriding settings

The overrides that a list of texts gives hold the last value of each key (`get?_of_parse`), and the
values of the nine keys that name settings decide what is changed (`apply_eq_withValues`). To insert
a value before all are applied is to change its setting behind the others (`apply_insert`). So the
overrides of two lists together do what those of the first and then those of the second do
(`apply_parse_append`).
-/

namespace ClientWrap

open ClientWrap.Text

/-- The settings with the values of those keys that have one. -/
def Settings.withValues (s : Settings) (value? : String → Option String) : Settings :=
  { s with
    fileName := (value? "output.file-name").getD s.fileName
    package := (value? "output.package").getD s.package
    restPackage := (value? "rest.package").getD s.restPackage
    metricsPackage := (value? "metrics.package").getD s.metricsPackage
    tracing :=
      { package := (value? "tracing.package").getD s.tracing.package
        attributePackage := (value? "tracing.attribute-package").getD s.tracing.attributePackage
        codesPackage := (value? "tracing.codes-package").getD s.tracing.codesPackage
        spanLead := (value? "tracing.span-prefix").getD s.tracing.spanLead }
    formatter :=
      match value? "formatter" with
      | some command => if (words command).isEmpty then none else some (words command)
      | none => s.formatter }

namespace Overrides

variable {o o' : Overrides} {s : Settings} {text key key' value value' : String}
  {texts texts' : List String} {entries : List (String × String)}

/-- The keys that name settings. -/
def settingKeys : List String :=
  ["output.file-name", "output.package", "rest.package", "metrics.package", "tracing.package",
    "tracing.attribute-package", "tracing.codes-package", "tracing.span-prefix", "formatter"]

/-! ### Texts -/

/-- The text gives the value for the key: without the blanks around them, they stand before and
behind its first `=`. -/
def Gives (text key value : String) : Prop :=
  ∃ before after, text.toList = before ++ '=' :: after ∧ '=' ∉ before
    ∧ key = String.ofList (trim before) ∧ value = String.ofList (trim after)

/-- A text that gives a value to a key is read as that, unless the key is empty. -/
theorem parseOne_of_gives (h : Gives text key value) :
  parseOne text = if key = "" then .error (.noKey text) else .ok (key, value)
  := by
  obtain ⟨before, after, htext, hbefore, rfl, rfl⟩ := h
  have hall : ∀ c ∈ before, (c != '=') = true := by
    intro c hc
    simpa using ne_of_mem_of_not_mem hc hbefore
  have hsplit : text.toList.span (· != '=') = (before, '=' :: after) := by
    rw [htext, List.span_eq_takeWhile_dropWhile, List.takeWhile_append_of_pos hall,
      List.dropWhile_append_of_pos hall]
    simp
  have hempty : String.ofList (trim before) = "" ↔ (trim before).isEmpty := by
    rw [← String.toList_inj, String.toList_ofList, List.isEmpty_iff]
    rfl
  rw [parseOne, hsplit]
  simp only [hempty]

/-- A text without an equals sign is refused. -/
theorem parseOne_of_not_mem (h : '=' ∉ text.toList) :
  parseOne text = .error (.noValue text)
  := by
  have hrest : text.toList.dropWhile (· != '=') = [] := by
    apply List.dropWhile_eq_nil_iff.mpr
    intro c hc
    simpa using ne_of_mem_of_not_mem hc h
  rw [parseOne, List.span_eq_takeWhile_dropWhile, hrest]

/-- A text with an equals sign gives a value to a key. -/
theorem exists_gives (h : '=' ∈ text.toList) :
  ∃ key value, Gives text key value
  := by
  obtain ⟨before, after, htext, hbefore⟩ := List.eq_append_cons_of_mem h
  exact ⟨_, _, before, after, htext, hbefore, rfl, rfl⟩

/-- A text is an override exactly if it gives a value for a key that is not empty. -/
theorem parseOne_eq_ok :
  parseOne text = .ok (key, value) ↔ Gives text key value ∧ key ≠ ""
  := by
  constructor
  · intro h
    by_cases hmem : '=' ∈ text.toList
    · obtain ⟨key', value', hgives⟩ := exists_gives hmem
      rw [parseOne_of_gives hgives] at h
      split at h
      · contradiction
      · next hkey =>
          obtain ⟨rfl, rfl⟩ := Prod.mk.inj (Except.ok.inj h)
          exact ⟨hgives, hkey⟩
    · rw [parseOne_of_not_mem hmem] at h
      contradiction
  · rintro ⟨h, hkey⟩
    rw [parseOne_of_gives h, if_neg hkey]

/-- A text that is read gives nothing but its entry. -/
theorem gives_iff_of_parseOne (h : parseOne text = .ok (key, value)) :
  Gives text key' value' ↔ key = key' ∧ value = value'
  := by
  constructor
  · intro hgives
    rw [parseOne_of_gives hgives] at h
    split at h
    · contradiction
    · obtain ⟨rfl, rfl⟩ := Prod.mk.inj (Except.ok.inj h)
      exact ⟨rfl, rfl⟩
  · rintro ⟨rfl, rfl⟩
    apply (parseOne_eq_ok.mp h).1

/-- The entry of a text, if it is an override. -/
def entry? (text : String) : Option (String × String) :=
  (parseOne text).toOption

/-- The overrides with more entries, each in place of one with its key. -/
def insertAll (o : Overrides) (entries : List (String × String)) : Overrides :=
  entries.foldl (fun o e => o.insert e.1 e.2) o

/-- Two lists of texts are read one after the other. -/
theorem parseOnto_append :
  parseOnto o (texts ++ texts') = parseOnto o texts >>= fun o' => parseOnto o' texts'
  := by
  induction texts generalizing o with
  | nil => rfl
  | cons text texts ih =>
      rw [List.cons_append, parseOnto, parseOnto]
      cases parseOne text with
      | error e => rfl
      | ok entry => apply ih

/-- Texts are read one by one. -/
theorem parseOnto_eq_ok :
  parseOnto o texts = .ok o'
    ↔ (∀ text ∈ texts, ∃ e, parseOne text = .ok e) ∧ o.insertAll (texts.filterMap entry?) = o'
  := by
  induction texts generalizing o with
  | nil => simp [parseOnto, insertAll]
  | cons text texts ih =>
      rw [parseOnto, List.forall_mem_cons, List.filterMap_cons, entry?]
      cases hentry : parseOne text with
      | error e => simp [bind, Except.bind]
      | ok e =>
          change parseOnto (o.insert e.1 e.2) texts = .ok o' ↔ _
          rw [ih]
          simp [Except.toOption, insertAll]

/-- Overrides can be read exactly if every text gives a value for a key that is not empty. -/
theorem exists_parse_iff :
  (∃ o, parse texts = .ok o) ↔ ∀ text ∈ texts, ∃ key value, Gives text key value ∧ key ≠ ""
  := by
  have hentry : ∀ text,
      (∃ e, parseOne text = .ok e) ↔ ∃ key value, Gives text key value ∧ key ≠ "" := by
    intro text
    simp only [← parseOne_eq_ok, Prod.exists]
  simp only [parse, parseOnto_eq_ok, exists_and_left, exists_eq', and_true, hentry]

/-! ### Entries -/

/-- The entries stand in ascending order of their keys. -/
def Ordered (o : Overrides) : Prop :=
  AscendingBy Prod.fst o.entries

/-- Every entry after an insertion is the new one or one from before. -/
theorem mem_insertEntry {e : String × String} (h : e ∈ insertEntry key value entries) :
  e = (key, value) ∨ e ∈ entries
  := by
  induction entries with
  | nil => exact Or.inl (List.mem_singleton.mp h)
  | cons e' rest ih =>
      obtain ⟨k, v⟩ := e'
      rw [insertEntry] at h
      split at h
      · apply List.mem_cons.mp h
      · split at h
        · apply (List.mem_cons.mp h).imp_right (List.mem_cons_of_mem _)
        · rcases List.mem_cons.mp h with rfl | h
          · exact Or.inr List.mem_cons_self
          · apply (ih h).imp_right (List.mem_cons_of_mem _)

/-- Insertion keeps the keys in order. -/
theorem Ordered.insert (h : o.Ordered) (key value : String) :
  (o.insert key value).Ordered
  := by
  obtain ⟨entries⟩ := o
  change AscendingBy Prod.fst entries at h
  change AscendingBy Prod.fst (insertEntry key value entries)
  induction entries with
  | nil => apply List.pairwise_singleton _ _
  | cons e rest ih =>
      obtain ⟨k, v⟩ := e
      rw [insertEntry]
      split
      · next hlt => apply AscendingBy.cons_cons h hlt
      · next hnlt =>
          split
          · next heq =>
              subst heq
              obtain ⟨hfirst, hrest⟩ := AscendingBy.cons_iff.mp h
              exact AscendingBy.cons_iff.mpr ⟨hfirst, hrest⟩
          · next hne =>
              have hlt : k < key := lt_of_le_of_ne (not_lt.mp hnlt) (Ne.symm hne)
              apply h.cons_of_mem (a := (key, value)) hlt
              · apply ih (AscendingBy.cons_iff.mp h).2
              · intro e he
                apply mem_insertEntry he

/-- The first entry decides the value of its key and of no other one. -/
theorem get?_cons (k v : String) (rest : List (String × String)) :
  (Overrides.mk ((k, v) :: rest)).get? = Function.update (Overrides.mk rest).get? k (some v)
  := by
  funext key
  rw [get?, List.find?_cons]
  by_cases h : key = k
  · subst h
    simp
  · rw [Function.update_of_ne h, beq_false_of_ne (Ne.symm h)]
    rfl

/-- A new entry decides the value of its key. -/
theorem get?_insert (o : Overrides) (key value : String) :
  (o.insert key value).get? = Function.update o.get? key (some value)
  := by
  obtain ⟨entries⟩ := o
  change (Overrides.mk (insertEntry key value entries)).get? = _
  induction entries with
  | nil => apply get?_cons
  | cons e rest ih =>
      obtain ⟨k, v⟩ := e
      rw [insertEntry]
      split
      · apply get?_cons
      · split
        · next heq =>
            rw [get?_cons, get?_cons, heq, Function.update_idem]
        · next hne =>
            rw [get?_cons, get?_cons, ih, Function.update_comm hne]

/-- The first key of ordered entries is not found behind them. -/
theorem get?_eq_none_of_ordered {k v : String} {rest : List (String × String)}
    (h : (Overrides.mk ((k, v) :: rest)).Ordered) :
  (Overrides.mk rest).get? k = none
  := by
  rw [get?, Option.map_eq_none_iff, List.find?_eq_none]
  intro e he
  have hlt : k < e.1 := (AscendingBy.cons_iff.mp h).1 e he
  simpa using hlt.ne'

/-- An entry of a map in order is the value of its key. -/
theorem mem_entries_iff (h : o.Ordered) :
  (key, value) ∈ o.entries ↔ o.get? key = some value
  := by
  obtain ⟨entries⟩ := o
  induction entries with
  | nil => simp [get?]
  | cons e rest ih =>
      obtain ⟨k, v⟩ := e
      have hrest := ih (AscendingBy.cons_iff.mp h).2
      rw [get?_cons, List.mem_cons]
      by_cases hkey : key = k
      · subst hkey
        have hmem : (key, value) ∉ rest := by
          intro hmem
          rw [get?_eq_none_of_ordered h] at hrest
          apply absurd (hrest.mp hmem) (by simp)
        simp [hmem, eq_comm]
      · rw [Function.update_of_ne hkey, ← hrest]
        simp [hkey]

/-- Ordered overrides are determined by the values of the keys. -/
theorem Ordered.ext (h : o.Ordered) (h' : o'.Ordered) (hget : o.get? = o'.get?) :
  o = o'
  := by
  obtain ⟨entries⟩ := o
  obtain ⟨entries'⟩ := o'
  rw [Overrides.mk.injEq]
  apply AscendingBy.ext h h'
  rintro ⟨key, value⟩
  rw [mem_entries_iff h, mem_entries_iff h', hget]

/-- Values for different keys may be put in in both orders. -/
theorem insert_comm (h : o.Ordered) (hkey : key ≠ key') :
  (o.insert key value).insert key' value' = (o.insert key' value').insert key value
  := by
  apply Ordered.ext ((h.insert _ _).insert _ _) ((h.insert _ _).insert _ _)
  rw [get?_insert, get?_insert, get?_insert, get?_insert, Function.update_comm hkey]

/-! ### Settings -/

/-- A key changes nothing exactly if it names no setting. -/
theorem change?_eq_none_iff :
  change? key value = none ↔ key ∉ settingKeys
  := by
  unfold change?
  split <;> simp_all [settingKeys]

/-- A key that names no setting changes nothing. -/
theorem applyOne_of_not_mem (h : key ∉ settingKeys) (s : Settings) (value : String) :
  applyOne s (key, value) = s
  := by
  rw [applyOne, change?_eq_none_iff.mpr h]

/-- Only the values of the keys that name settings count. -/
theorem withValues_congr {f g : String → Option String} (h : ∀ key ∈ settingKeys, f key = g key) :
  s.withValues f = s.withValues g
  := by
  simp only [settingKeys, List.forall_mem_cons] at h
  simp only [Settings.withValues, h]

/-- Applying one more value to overridden settings overrides them with that value too. -/
theorem applyOne_withValues (s : Settings) (f : String → Option String) (key value : String) :
  applyOne (s.withValues f) (key, value) = s.withValues (Function.update f key (some value))
  := by
  by_cases h : key ∈ settingKeys
  · simp only [settingKeys, List.mem_cons, List.not_mem_nil, or_false] at h
    rcases h with rfl | rfl | rfl | rfl | rfl | rfl | rfl | rfl | rfl <;>
      simp [applyOne, change?, Settings.withValues]
  · rw [applyOne_of_not_mem h]
    apply withValues_congr
    intro key' hkey'
    rw [Function.update_of_ne (ne_of_mem_of_not_mem hkey' h)]

/-- Ordered overrides give their values to those keys that have one. -/
theorem apply_withValues (h : o.Ordered) (s : Settings) (f : String → Option String) :
  o.apply (s.withValues f) = s.withValues fun key => (o.get? key).or (f key)
  := by
  obtain ⟨entries⟩ := o
  induction entries generalizing f with
  | nil => rfl
  | cons e rest ih =>
      obtain ⟨k, v⟩ := e
      change (Overrides.mk rest).apply (applyOne (s.withValues f) (k, v)) = _
      rw [applyOne_withValues, ih _ (AscendingBy.cons_iff.mp h).2]
      congr 1
      funext key
      rw [get?_cons]
      by_cases hkey : key = k
      · subst hkey
        rw [get?_eq_none_of_ordered h, Function.update_self, Function.update_self]
        rfl
      · rw [Function.update_of_ne hkey, Function.update_of_ne hkey]

/-- What ordered overrides change is decided by the values of the keys. -/
theorem apply_eq_withValues (h : o.Ordered) (s : Settings) :
  o.apply s = s.withValues o.get?
  := by
  have hnone : s = s.withValues fun _ => none := rfl
  rw [hnone, apply_withValues h]
  simp only [Option.or_none]
  rfl

/-- A value that is put in last is applied last. -/
theorem apply_insert (h : o.Ordered) (s : Settings) (key value : String) :
  (o.insert key value).apply s = applyOne (o.apply s) (key, value)
  := by
  rw [apply_eq_withValues (h.insert key value), get?_insert, apply_eq_withValues h,
    applyOne_withValues]

/-- Putting in many entries keeps the keys in order. -/
theorem Ordered.insertAll (h : o.Ordered) (entries : List (String × String)) :
  (o.insertAll entries).Ordered
  := by
  induction entries generalizing o with
  | nil => apply h
  | cons e rest ih => apply ih (h.insert e.1 e.2)

/-- Entries that are put in one after another are applied one after another. -/
theorem apply_insertAll (h : o.Ordered) (entries : List (String × String)) (s : Settings) :
  (o.insertAll entries).apply s = entries.foldl applyOne (o.apply s)
  := by
  induction entries generalizing o with
  | nil => rfl
  | cons e rest ih =>
      change ((o.insert e.1 e.2).insertAll rest).apply s = _
      rw [ih (h.insert e.1 e.2), apply_insert h]
      rfl

/-! ### Lists of texts -/

/-- Overrides that are read onto a map in order are in order. -/
theorem ordered_of_parseOnto (ho : o.Ordered) (h : parseOnto o texts = .ok o') :
  o'.Ordered
  := by
  obtain ⟨-, rfl⟩ := parseOnto_eq_ok.mp h
  apply ho.insertAll

/-- Overrides that are read are in order. -/
theorem ordered_of_parse (h : parse texts = .ok o) :
  o.Ordered
  := ordered_of_parseOnto AscendingBy.nil h

/-- The overrides of texts are applied as if the texts were, one by one. -/
theorem apply_of_parse (h : parse texts = .ok o) (s : Settings) :
  o.apply s = (texts.filterMap entry?).foldl applyOne s
  := by
  obtain ⟨-, rfl⟩ := parseOnto_eq_ok.mp h
  apply apply_insertAll AscendingBy.nil

/-- The value is that of the last text which gives one for the key. -/
def LastValue (texts : List String) (key value : String) : Prop :=
  ∃ before text after, texts = before ++ text :: after ∧ Gives text key value
    ∧ ∀ t ∈ after, ∀ v, ¬ Gives t key v

/-- The last value of a key is the one in the last text, or the one before if that text gives it
none. -/
theorem lastValue_concat :
  LastValue (texts ++ [text]) key value
    ↔ Gives text key value ∨ (∀ v, ¬ Gives text key v) ∧ LastValue texts key value
  := by
  constructor
  · rintro ⟨before, t, after, htexts, hgives, hafter⟩
    rcases List.eq_nil_or_concat' after with rfl | ⟨after, u, rfl⟩
    · obtain ⟨-, ht⟩ := List.append_inj' htexts rfl
      exact Or.inl (List.singleton_inj.mp ht ▸ hgives)
    · rw [← List.cons_append, ← List.append_assoc] at htexts
      obtain ⟨htexts, hu⟩ := List.append_inj' htexts rfl
      rw [List.forall_mem_append, List.forall_mem_singleton, ← List.singleton_inj.mp hu] at hafter
      exact Or.inr ⟨hafter.2, before, t, after, htexts, hgives, hafter.1⟩
  · rintro (hgives | ⟨hlast, before, t, after, rfl, hgives, hafter⟩)
    · exact ⟨texts, text, [], rfl, hgives, by simp⟩
    · refine ⟨before, t, after ++ [text], by simp, hgives, ?_⟩
      rw [List.forall_mem_append, List.forall_mem_singleton]
      exact ⟨hafter, hlast⟩

/-- Of several values for one key the last is taken. -/
theorem get?_of_parse (h : parse texts = .ok o) :
  o.get? key = some value ↔ LastValue texts key value
  := by
  induction texts using List.reverseRecOn generalizing o with
  | nil =>
      cases Except.ok.inj h
      simp [get?, LastValue]
  | append_singleton texts text ih =>
      rw [parse, parseOnto_append, Outcome.bind_eq_ok] at h
      obtain ⟨o', ho', h⟩ := h
      obtain ⟨⟨k, v⟩, he, h⟩ := Outcome.bind_eq_ok.mp h
      cases Except.ok.inj h
      rw [get?_insert, lastValue_concat]
      simp only [gives_iff_of_parseOne he]
      by_cases hkey : key = k
      · subst hkey
        simp
      · rw [Function.update_of_ne hkey, ih ho']
        simp [Ne.symm hkey]

/-- Neighbouring texts with values for different keys may be exchanged. If one of them is at fault,
its key is empty and that of the other one is not, so that the fault is the same in both orders. -/
theorem parseOnto_swap (ho : o.Ordered) {x y : String} (hx : Gives x key value)
    (hy : Gives y key' value') (hkey : key ≠ key') (texts : List String) :
  parseOnto o (x :: y :: texts) = parseOnto o (y :: x :: texts)
  := by
  simp only [parseOnto, parseOne_of_gives hx, parseOne_of_gives hy]
  split
  · next hempty =>
      rw [if_neg (hempty ▸ hkey.symm)]
      rfl
  · split
    · rfl
    · change parseOnto ((o.insert key value).insert key' value') texts
        = parseOnto ((o.insert key' value').insert key value) texts
      rw [insert_comm ho hkey]

/-- The overrides of two lists together can be read exactly if those of both can, and they do what
those of the first and then those of the second do. So the last value of each key is taken, to apply
overrides again changes nothing, neighbours with different keys may be exchanged, and those with
keys that name no setting may be left out. What is excluded and the targets stay as they are. -/
theorem apply_parse_append (a b : List String) :
  ((∃ o, parse (a ++ b) = .ok o) ↔ (∃ o, parse a = .ok o) ∧ ∃ o, parse b = .ok o)
    ∧ (∀ o o' joined, parse a = .ok o → parse b = .ok o' → parse (a ++ b) = .ok joined →
        ∀ s, joined.apply s = o'.apply (o.apply s))
    ∧ (∀ o, parse a = .ok o →
        (∀ key value, o.get? key = some value ↔ LastValue a key value)
        ∧ ∀ s, o.apply s = s.withValues o.get? ∧ o.apply (o.apply s) = o.apply s
          ∧ (o.apply s).exclusions = s.exclusions ∧ (o.apply s).targets = s.targets)
    ∧ (∀ x y key key' value value', Gives x key value → Gives y key' value' → key ≠ key' →
        parse (a ++ x :: y :: b) = parse (a ++ y :: x :: b))
    ∧ ∀ x key value, Gives x key value → key ≠ "" → key ∉ settingKeys →
        ((∃ o, parse (a ++ x :: b) = .ok o) ↔ ∃ o, parse (a ++ b) = .ok o)
        ∧ ∀ o o', parse (a ++ x :: b) = .ok o → parse (a ++ b) = .ok o' →
          ∀ s, o.apply s = o'.apply s
  := by
  refine ⟨?_, ?_, ?_, ?_, ?_⟩
  · simp only [exists_parse_iff, List.forall_mem_append]
  · intro o o' joined ho ho' hjoined s
    rw [apply_of_parse hjoined, List.filterMap_append, List.foldl_append, apply_of_parse ho,
      apply_of_parse ho']
  · intro o ho
    have hordered := ordered_of_parse ho
    refine ⟨fun key value => get?_of_parse ho, ?_⟩
    intro s
    rw [apply_eq_withValues hordered]
    refine ⟨rfl, ?_, rfl, rfl⟩
    rw [apply_withValues hordered]
    simp only [Option.or_self]
  · intro x y key key' value value' hx hy hkey
    rw [parse, parse, parseOnto_append, parseOnto_append]
    cases ho : parseOnto ⟨[]⟩ a with
    | error e => rfl
    | ok o => apply parseOnto_swap (ordered_of_parse ho) hx hy hkey
  · intro x key value hx hempty hkey
    have hread : ∃ key value, Gives x key value ∧ key ≠ "" := ⟨key, value, hx, hempty⟩
    have hentry := parseOne_eq_ok.mpr ⟨hx, hempty⟩
    constructor
    · simp only [exists_parse_iff, List.forall_mem_append, List.forall_mem_cons, hread, true_and]
    · intro o o' ho ho' s
      rw [apply_of_parse ho, apply_of_parse ho', List.filterMap_append, List.filterMap_append,
        List.foldl_append, List.foldl_append, List.filterMap_cons, entry?, hentry]
      change List.foldl applyOne (applyOne _ (key, value)) _ = _
      rw [applyOne_of_not_mem hkey]

/-- Two lists that both set the package and each another key: the second package wins. -/
theorem apply_parse_append_package :
  ∃ o o' joined, parse [" output.package = first", "note=x"] = .ok o
    ∧ parse ["formatter = gofmt  -w", "output.package=a=b"] = .ok o'
    ∧ parse ([" output.package = first", "note=x"]
        ++ ["formatter = gofmt  -w", "output.package=a=b"]) = .ok joined
    ∧ LastValue [" output.package = first", "note=x"] "output.package" "first"
    ∧ ∀ s, joined.apply s = o'.apply (o.apply s) ∧ (joined.apply s).package = "a=b"
      ∧ (joined.apply s).formatter = some ["gofmt", "-w"]
  := by
  obtain ⟨hread, happly, hvalues, -⟩ := apply_parse_append
    [" output.package = first", "note=x"] ["formatter = gofmt  -w", "output.package=a=b"]
  have ho : parse [" output.package = first", "note=x"]
      = .ok ⟨[("note", "x"), ("output.package", "first")]⟩ := by decide +kernel
  have ho' : parse ["formatter = gofmt  -w", "output.package=a=b"]
      = .ok ⟨[("formatter", "gofmt  -w"), ("output.package", "a=b")]⟩ := by decide +kernel
  have hwords : words "gofmt  -w" = ["gofmt", "-w"] := by decide +kernel
  obtain ⟨joined, hjoined⟩ := hread.mpr ⟨⟨_, ho⟩, ⟨_, ho'⟩⟩
  refine ⟨_, _, joined, ho, ho', hjoined, ((hvalues _ ho).1 _ _).mp (by decide), ?_⟩
  intro s
  have hboth := happly _ _ _ ho ho' hjoined s
  refine ⟨hboth, ?_, ?_⟩
  · rw [hboth]
    rfl
  · rw [hboth]
    simp [apply, applyOne, change?, hwords]

end Overrides

end ClientWrap
