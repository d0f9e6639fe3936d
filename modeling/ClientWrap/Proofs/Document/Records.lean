import ClientWrap.Document.Basic
import ClientWrap.Proofs.Outcome

/-!
# Reading records

A condition that the fields of a record keep holds of what is read from a document, and the fields
that must be there have been read (`RecordReader.Keeps.read`).
-/

namespace ClientWrap

open Outcome

/-- The items of a list are read one by one. -/
theorem Document.exists_of_mem_readList {α : Type} {read : Document → Except DataFault α}
    {d : Document} {l : List α} (h : d.readList read = .ok l) {a : α} (ha : a ∈ l) :
  ∃ item, read item = .ok a
  := by
  cases d with
  | list items =>
      obtain ⟨item, -, hitem⟩ := exists_of_mem_right (mapM_eq_ok.mp h) ha
      exact ⟨item, hitem⟩
  | blank =>
      rw [← Except.ok.inj h] at ha
      contradiction
  | _ => contradiction

namespace RecordReader

variable {σ : Type} {r : RecordReader σ} {s s' : σ}

/-- Every field of the record keeps the condition on the names that have been read and on what they
have given. -/
def Keeps (r : RecordReader σ) (kept : List String → σ → Prop) : Prop :=
  ∀ f ∈ r.fields, ∀ seen s d s', kept seen s → f.read s d = .ok s' → kept (f.name :: seen) s'

variable {kept : List String → σ → Prop}

/-- What the fields of a record keep, together with the names read so far, is kept when the record
is read by names. -/
theorem Keeps.readNamed (h : r.Keeps kept) {fields : List (String × Document)}
    {seen seen' : List String} (hread : r.readNamed seen s fields = .ok (seen', s'))
    (hs : kept seen s) :
  kept seen' s'
  := by
  induction fields generalizing seen s with
  | nil =>
      obtain ⟨rfl, rfl⟩ := Prod.mk.inj (Except.ok.inj hread)
      apply hs
  | cons field fields ih =>
      obtain ⟨name, d⟩ := field
      rw [RecordReader.readNamed] at hread
      split at hread
      · split at hread
        · apply ih hread hs
        · contradiction
      · next f hfind =>
          obtain ⟨-, hread⟩ := guard_eq_ok.mp hread
          obtain ⟨s₁, hs₁, hread⟩ := bind_eq_ok.mp hread
          have hname : f.name = name := by simpa using List.find?_some hfind
          apply ih hread
          rw [← hname]
          apply h f (List.mem_of_find?_eq_some hfind) _ _ _ _ hs hs₁

/-- What the fields of a record keep is kept when the record is read by places, and all required
fields among them are read. -/
theorem Keeps.readPlaced (h : r.Keeps kept) {all : Bool} {i : ℕ} {fs : List (FieldReader σ)}
    {ds : List Document} {seen : List String} (hfs : fs ⊆ r.fields)
    (hread : r.readPlaced all i s fs ds = .ok s') (hs : kept seen s) :
  ∃ seen', kept seen' s' ∧ seen ⊆ seen' ∧ ∀ f ∈ fs, f.required → f.name ∈ seen'
  := by
  induction fs generalizing i s ds seen with
  | nil =>
      have heq : s = s' := by
        cases ds with
        | nil => apply Except.ok.inj hread
        | cons d ds =>
            rw [RecordReader.readPlaced] at hread
            split at hread
            · contradiction
            · apply Except.ok.inj hread
      rw [← heq]
      exact ⟨seen, hs, List.Subset.refl _, List.forall_mem_nil _⟩
  | cons f fs ih =>
      obtain ⟨hf, hfs⟩ := List.cons_subset.mp hfs
      cases ds with
      | nil =>
          rw [RecordReader.readPlaced] at hread
          split at hread
          · contradiction
          · next hrequired =>
              obtain ⟨seen', hs', hsubset, hseen⟩ := ih hfs hread hs
              exact ⟨seen', hs', hsubset,
                List.forall_mem_cons.mpr ⟨fun h => absurd h hrequired, hseen⟩⟩
      | cons d ds =>
          obtain ⟨s₁, hs₁, hread⟩ := bind_eq_ok.mp hread
          obtain ⟨seen', hs', hsubset, hseen⟩ := ih hfs hread (h f hf _ _ _ _ hs hs₁)
          obtain ⟨hname, hsubset⟩ := List.cons_subset.mp hsubset
          exact ⟨seen', hs', hsubset, List.forall_mem_cons.mpr ⟨fun _ => hname, hseen⟩⟩

/-- What is read satisfies the condition that the fields keep, with all the names that must be
there. -/
theorem Keeps.read (h : r.Keeps kept) {format : Format} {d : Document}
    (hread : r.read format s d = .ok s') (hs : kept [] s) :
  ∃ seen, kept seen s' ∧ ∀ f ∈ r.fields, f.required → f.name ∈ seen
  := by
  have hplaced : ∀ all items, r.readPlaced all 0 s r.fields items = .ok s' →
      ∃ seen, kept seen s' ∧ ∀ f ∈ r.fields, f.required → f.name ∈ seen := by
    intro all items hread
    obtain ⟨seen, hs', -, hseen⟩ := h.readPlaced (List.Subset.refl _) hread hs
    exact ⟨seen, hs', hseen⟩
  cases d with
  | record fields =>
      obtain ⟨⟨seen, s₁⟩, hnamed, hread⟩ := bind_eq_ok.mp hread
      dsimp only at hread
      split at hread
      · contradiction
      · next hfind =>
          obtain rfl := Except.ok.inj hread
          refine ⟨seen, h.readNamed hnamed hs, fun f hf hrequired => ?_⟩
          simpa [hrequired] using List.find?_eq_none.mp hfind f hf
  | list items =>
      cases format with
      | json => apply hplaced _ _ hread
      | toml => apply hplaced _ _ hread
      | yaml => contradiction
  | blank => apply hplaced _ _ hread
  | _ => contradiction

end RecordReader

end ClientWrap
