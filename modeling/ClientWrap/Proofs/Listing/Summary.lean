import ClientWrap.Listing.Rows
import ClientWrap.Proofs.Clientset.Walkable
import Mathlib.Data.List.Destutter

/-!
# The summary of a listing

The line above the table of resources says how many clients and resources there are. Clients are
counted by the runs of their names in the rows, that is after repeated neighbours are removed
(`countRuns_eq_length_destutter`). The rows stand client by client and the clients of a walk have
different names, so each client with a resource makes one run (`summary_of_walk`).
-/

namespace ClientWrap

namespace Listing

variable {a : String} {l : List String}

/-! ### Runs -/

/-- The runs of a list that is not empty are the elements that are left without repeated
neighbours. -/
theorem countRuns_cons (a : String) (l : List String) :
  countRuns (a :: l) = (l.destutter' (· ≠ ·) a).length
  := by
  induction l generalizing a with
  | nil => rfl
  | cons b l ih =>
      rw [countRuns, ih]
      split
      · next hab => rw [List.destutter'_cons_neg l (not_not.mpr hab), hab]
      · next hab => rw [List.destutter'_cons_pos l hab, List.length_cons]

/-- The runs of a list are what is left of it without repeated neighbours. -/
theorem countRuns_eq_length_destutter (l : List String) :
  countRuns l = (l.destutter (· ≠ ·)).length
  := by
  cases l with
  | nil => rfl
  | cons a l => apply countRuns_cons

/-- An element that does not occur in a list makes one run in front of it. -/
theorem countRuns_replicate_append (h : a ∉ l) (n : ℕ) :
  countRuns (List.replicate (n + 1) a ++ l) = countRuns l + 1
  := by
  induction n with
  | zero =>
      cases l with
      | nil => rfl
      | cons b l =>
          have hab : a ≠ b := by
            rintro rfl
            apply h List.mem_cons_self
          change countRuns (a :: b :: l) = _
          rw [countRuns, if_neg hab]
  | succ n ih =>
      change countRuns (a :: a :: (List.replicate n a ++ l)) = _
      rw [countRuns, if_pos rfl]
      apply ih

/-- Runs of different elements are counted one by one; empty ones do not count. -/
theorem countRuns_flatMap_replicate {α : Type} {name : α → String} {l : List α}
    (h : (l.map name).Nodup) (size : α → ℕ) :
  countRuns (l.flatMap fun a => List.replicate (size a) (name a))
    = (l.filter (size · ≠ 0)).length
  := by
  induction l with
  | nil => rfl
  | cons a l ih =>
      rw [List.map_cons, List.nodup_cons] at h
      obtain ⟨ha, hl⟩ := h
      rw [List.flatMap_cons]
      cases hsize : size a with
      | zero =>
          rw [List.filter_cons_of_neg (by simp [hsize]), ← ih hl]
          rfl
      | succ n =>
          have hrest : name a ∉ l.flatMap fun b => List.replicate (size b) (name b) := by
            intro hmem
            obtain ⟨b, hb, hmem⟩ := List.mem_flatMap.mp hmem
            apply ha
            rw [List.eq_of_mem_replicate hmem]
            apply List.mem_map_of_mem hb
          rw [List.filter_cons_of_pos (by simp [hsize]), List.length_cons, ← ih hl,
            countRuns_replicate_append hrest]

end Listing

/-! ### Rows -/

namespace Clientset

variable {cs : Clientset}

/-- The clients that own a resource. -/
def owners (cs : Clientset) : List Client :=
  cs.clients.filter (·.resources.length ≠ 0)

/-- The table names each client once for each of its resources. -/
theorem map_client_rows (cs : Clientset) :
  cs.rows.map (·.client) = cs.clients.flatMap fun c => List.replicate c.resources.length c.name
  := by
  rw [rows, List.map_flatMap]
  simp only [List.map_map, Function.comp_def, List.map_const']

/-- The table has a row for each resource. -/
theorem length_rows (cs : Clientset) :
  cs.rows.length = cs.resourceCount
  := by
  simp [rows, resourceCount, List.length_flatMap]

/-- The clients of a walked clientset have pairwise different names, since their fields, which are
the names in lower case, are different. -/
theorem nodup_name_of_walk {s : Schema} {ex : Exclusions} (hwalk : (s.walk ex).outcome = .ok cs) :
  (cs.clients.map Client.name).Nodup
  := by
  obtain ⟨hcs, hnames⟩ := Schema.walk_eq_ok.mp hwalk
  have hfields := (hcs.nodup_names_iff.mp hnames).1
  rw [hcs.fieldNames_eq] at hfields
  apply List.Nodup.of_map Text.lowerString
  rw [List.map_map]
  apply (List.nodup_cons.mp hfields).2

end Clientset

open Listing

/-- The listing of the resources of a walked clientset names the number of clients that own a
resource and the number of all resources; if there is no resource, it says so. The first number is
that of the names which are left in the rows without repeated neighbours. -/
theorem summary_of_walk {s : Schema} {ex : Exclusions} {cs : Clientset}
    (hwalk : (s.walk ex).outcome = .ok cs) :
  ((cs.rows.map (·.client)).destutter (· ≠ ·)).length = cs.owners.length
    ∧ cs.rows.length = cs.resourceCount
    ∧ ∀ coloured target, resources coloured target cs.rows
      = if cs.resourceCount = 0 then "No resources discovered for target " ++ target
        else
          "╭─ Target " ++ target ++ " " ++ Colour.darkGrey.paint coloured
            s!"[{cs.owners.length} clients, {cs.resourceCount} resources]" ++ " ─╮\n"
            ++ (resourceTable cs.rows).text ++ "\n"
  := by
  have hclients : countRuns (cs.rows.map (·.client)) = cs.owners.length := by
    rw [cs.map_client_rows]
    apply countRuns_flatMap_replicate (Clientset.nodup_name_of_walk hwalk)
  have hresources := cs.length_rows
  rw [← countRuns_eq_length_destutter]
  refine ⟨hclients, hresources, ?_⟩
  intro coloured target
  have hempty : cs.rows.isEmpty ↔ cs.resourceCount = 0 := by
    rw [← hresources, List.isEmpty_iff, List.length_eq_zero_iff]
  rw [resources, hclients, hresources]
  simp only [hempty]

/-- A schema whose second client has no resource. -/
def gappedSource : SchemaSource where
  root := .named "example.com/kubernetes" "Interface"
  interfaces :=
    [⟨.named "example.com/kubernetes" "Interface", [],
        [⟨"Apps", [], [.named "example.com/apps" "Apps"]⟩,
          ⟨"Batch", [], [.named "example.com/batch" "Batch"]⟩,
          ⟨"Core", [], [.named "example.com/core" "Core"]⟩]⟩,
      ⟨.named "example.com/apps" "Apps", [],
        [⟨"Jobs", [], [.named "example.com/apps" "JobInterface"]⟩,
          ⟨"Sets", [.builtin "string"], [.named "example.com/apps" "SetInterface"]⟩]⟩,
      ⟨.named "example.com/batch" "Batch", [], [⟨"Ready", [], [.builtin "bool"]⟩]⟩,
      ⟨.named "example.com/core" "Core", [],
        [⟨"Pods", [.builtin "string"], [.named "example.com/apps" "SetInterface"]⟩]⟩,
      ⟨.named "example.com/apps" "JobInterface", [], []⟩,
      ⟨.named "example.com/apps" "SetInterface", [], [⟨"Get", [], [.builtin "error"]⟩]⟩]
  externals := []

/-- A clientset with a client that has no resource: the summary counts two of its three clients. -/
theorem summary_of_walk_gapped :
  ∃ s cs, gappedSource.resolve = .ok s ∧ (s.walk Exclusions.default).outcome = .ok cs
    ∧ cs.clients.length = 3 ∧ cs.owners.length = 2 ∧ cs.resourceCount = 3
    ∧ ((cs.rows.map (·.client)).destutter (· ≠ ·)).length = 2
    ∧ resources false "foo" cs.rows
      = "╭─ Target foo [2 clients, 3 resources] ─╮\n" ++ (resourceTable cs.rows).text ++ "\n"
  := by
  have hwalk : (gappedSource.resolve.toOption.bind fun s =>
      (s.walk Exclusions.default).outcome.toOption).map
        (fun cs => (cs.clients.length, cs.owners.length, cs.resourceCount))
      = some (3, 2, 3) := by decide +kernel
  cases hresolve : gappedSource.resolve with
  | error e =>
      rw [hresolve] at hwalk
      contradiction
  | ok s =>
      rw [hresolve] at hwalk
      obtain ⟨cs, hcs, hcounts⟩ := Outcome.exists_of_toOption hwalk
      obtain ⟨hclients, howners, hcount⟩ : cs.clients.length = 3 ∧ cs.owners.length = 2
          ∧ cs.resourceCount = 3 := by simpa using hcounts
      obtain ⟨hruns, -, htext⟩ := summary_of_walk hcs
      refine ⟨s, cs, rfl, hcs, hclients, howners, hcount, hruns.trans howners, ?_⟩
      rw [htext, hcount, howners, if_neg (by decide)]
      rfl

end ClientWrap
