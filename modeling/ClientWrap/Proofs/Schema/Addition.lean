import ClientWrap.Proofs.Clientset.Walkable
import ClientWrap.Wrapper.Render

/-!
# Added declarations

A declaration that is added to an accepted description leaves the other interfaces as they are,
whatever it embeds and wherever it is mentioned (`SchemaSource.Adds.offers_iff`). A walk asks for
interfaces in one place only, where a method has a single result, so the clientset and the emitted
file stay the same unless some method there gives the new interface (`resolve_added`).
-/

namespace ClientWrap

open ClientWrap.Code

namespace SchemaSource

/-- The second description is the first with one more declaration somewhere among the others. -/
structure Adds (s : SchemaSource) (d : InterfaceDecl) (s' : SchemaSource) : Prop where
  root : s'.root = s.root
  interfaces : ∃ before after,
    s.interfaces = before ++ after ∧ s'.interfaces = before ++ d :: after
  externals : s'.externals = s.externals

namespace Adds

variable {s s' : SchemaSource} {d : InterfaceDecl} (h : s.Adds d s')

include h

/-- The interfaces after the addition are the new one and those from before. -/
theorem mem_interfaces {d' : InterfaceDecl} :
  d' ∈ s'.interfaces ↔ d' = d ∨ d' ∈ s.interfaces
  := by
  obtain ⟨before, after, hs, hs'⟩ := h.interfaces
  rw [hs, hs', List.mem_append, List.mem_append, List.mem_cons]
  tauto

/-- The names that are declared after the addition are the new one and those from before. -/
theorem declares_iff {a : String} :
  Declares s'.interfaces a ↔ d.key = a ∨ Declares s.interfaces a
  := by
  simp only [Declares, h.mem_interfaces, or_and_right, exists_or, exists_eq_left]

/-- The interface of the added declaration is new if no name is declared twice. -/
theorem not_declares (hkeys : (s'.interfaces.map InterfaceDecl.key).Nodup) :
  ¬ Declares s.interfaces d.key
  := by
  obtain ⟨before, after, hs, hs'⟩ := h.interfaces
  rw [hs', (List.perm_middle.map _).nodup_iff, List.map_cons, List.nodup_cons, mem_keys] at hkeys
  rw [hs]
  apply hkeys.1

/-- Only the new interface has new embeddings. -/
theorem embeds_iff {a b : String} (ha : a ≠ d.key) :
  Embeds s'.interfaces a b ↔ Embeds s.interfaces a b
  := by
  simp only [Embeds, h.mem_interfaces, or_and_right, exists_or, exists_eq_left, ha.symm,
    false_and, false_or]

section

variable (hs : s.Acceptable) (hs' : s'.Acceptable) {a : String} (ha : Declares s.interfaces a)

include hs hs' ha

/-- Nothing that was declared before leads to the new interface: a path from an interface of the
shorter description never leaves it. -/
theorem reaches_iff {b : String} :
  Reaches s'.interfaces a b ↔ Reaches s.interfaces a b
  := by
  have hnew := h.not_declares hs'.distinct
  have hne : ∀ {c}, Declares s.interfaces c → c ≠ d.key := by
    rintro c hc rfl
    apply hnew hc
  constructor
  · intro hreach
    induction hreach using Relation.ReflTransGen.head_induction_on with
    | refl => apply Relation.ReflTransGen.refl
    | @head a c hac _ ih =>
        have hac := (h.embeds_iff (hne ha)).mp hac
        obtain ⟨d', hd', rfl⟩ := ha
        have hc := (hs.resolvable d' hd').declared c (Relation.ReflTransGen.single hac)
        apply Relation.ReflTransGen.head hac (ih hc)
  · apply Relation.ReflTransGen.mono
    rintro c e ⟨d', hd', hkey, he⟩
    exact ⟨d', h.mem_interfaces.mpr (Or.inr hd'), hkey, he⟩

/-- An interface that was declared before keeps its methods. -/
theorem offers_iff {m : Method} :
  Offers s'.interfaces a m ↔ Offers s.interfaces a m
  := by
  constructor
  · rintro ⟨d', hd', hreach, hm⟩
    have hreach := (h.reaches_iff hs hs' ha).mp hreach
    obtain ⟨d₀, hd₀, rfl⟩ := ha
    have hdeclared := (hs.resolvable d₀ hd₀).declared d'.key hreach
    rcases h.mem_interfaces.mp hd' with rfl | hd'
    · apply absurd hdeclared (h.not_declares hs'.distinct)
    · exact ⟨d', hd', hreach, hm⟩
  · rintro ⟨d', hd', hreach, hm⟩
    exact ⟨d', h.mem_interfaces.mpr (Or.inr hd'), (h.reaches_iff hs hs' ha).mpr hreach, hm⟩

end

end Adds

end SchemaSource

/-! ### The schema -/

/-- The schemas have one root, the same external interfaces and, apart from the named interface, the
same method sets. -/
structure Schema.SameApart (a : String) (s s' : Schema) : Prop where
  root : s'.root = s.root
  methodsOf? : ∀ b, b ≠ a → s'.methodsOf? b = s.methodsOf? b
  externals : s'.externals = s.externals

/-- The schemas before and after the addition are the same apart from the new interface. -/
theorem SchemaSource.Adds.sameApart {s s' : SchemaSource} {d : InterfaceDecl} (h : s.Adds d s')
    {schema schema' : Schema} (hs : s.resolve = .ok schema) (hs' : s'.resolve = .ok schema') :
  schema.SameApart d.key schema'
  := by
  obtain ⟨hs, hschema⟩ := describes_of_resolve hs
  obtain ⟨hs', hschema'⟩ := describes_of_resolve hs'
  constructor
  · rw [hschema'.root, h.root, hschema.root]
  · intro b hb
    apply Option.ext
    intro ms
    rw [hschema'.methodsOf?_iff, hschema.methodsOf?_iff, h.declares_iff,
      or_iff_right hb.symm]
    apply and_congr_right
    intro hdeclared
    have hoffers : ∀ m, Offers s'.interfaces b m ↔ Offers s.interfaces b m := by
      intro m
      apply h.offers_iff hs hs' hdeclared
    constructor
    · intro hset
      apply hset.congr hoffers
    · intro hset
      apply hset.congr fun m => (hoffers m).symm
  · apply Text.AscendingBy.ext hschema'.externals_ascending hschema.externals_ascending
    intro b
    rw [hschema'.mem_externals, hschema.mem_externals, h.externals]

/-! ### The walk -/

/-- The named interface is the only result of the method. -/
def Method.GivesOnly (m : Method) (a : String) : Prop :=
  m.results.map GoType.key? = [some a]

/-- Some method of the root or of the interface of a client has the named interface as its only
result. -/
def Schema.Gives (s : Schema) (ex : Exclusions) (a : String) : Prop :=
  (∃ m ∈ (s.methods? s.root).getD [], m.GivesOnly a)
    ∨ ∃ c ∈ s.clientAccessors ex, ∃ m ∈ (s.methods? c.2).getD [], m.GivesOnly a

instance (m : Method) (a : String) : Decidable (m.GivesOnly a) :=
  inferInstanceAs (Decidable (m.results.map GoType.key? = [some a]))

instance (s : Schema) (ex : Exclusions) (a : String) : Decidable (s.Gives ex a) :=
  inferInstanceAs (Decidable (_ ∨ _))

/-- A method that does not give the new interface alone gives no result of that name. -/
theorem Method.key?_ne {m : Method} {a : String} (hm : ¬ m.GivesOnly a) {t : GoType}
    (ht : m.results = [t]) :
  t.key? ≠ some a
  := by
  intro hkey
  apply hm
  rw [GivesOnly, ht, List.map_singleton, hkey]

namespace Schema.SameApart

variable {s s' : Schema} {a : String} (h : s.SameApart a s')

include h

/-- The methods of every other interface are the same. -/
theorem methods? {t : GoType} (ht : t.key? ≠ some a) :
  s'.methods? t = s.methods? t
  := by
  cases t with
  | named package name => apply h.methodsOf? _ fun heq => ht (congrArg some heq)
  | _ => rfl

/-- What else is an interface is the same. -/
theorem isInterface {t : GoType} (ht : t.key? ≠ some a) :
  s'.isInterface t = s.isInterface t
  := by
  cases t with
  | named package name =>
      rw [Schema.isInterface, Schema.isInterface, h.externals,
        h.methodsOf? _ fun heq => ht (congrArg some heq)]
  | _ => rfl

/-- A method gives access to the same interface unless it gives the one apart. -/
theorem accessed? {excluded : List String} {m : Method} (hm : ¬ m.GivesOnly a) :
  s'.accessed? excluded m = s.accessed? excluded m
  := by
  rw [Schema.accessed?, Schema.accessed?]
  split
  · rfl
  · split
    · next t ht => rw [h.isInterface (m.key?_ne hm ht)]
    · rfl

/-- The methods that an accessor gives access to are the same unless it gives the new interface. -/
theorem accessedMethods {owner : GoType} {excluded : List String} {m : Method} {t : GoType}
    (ht : s.accessed? excluded m = some t) (hm : ¬ m.GivesOnly a) :
  s'.accessedMethods owner m t = s.accessedMethods owner m t
  := by
  obtain ⟨-, hresults, -⟩ := accessed?_eq_some.mp ht
  rw [Schema.accessedMethods, Schema.accessedMethods, h.methods? (m.key?_ne hm hresults)]

/-- The member of a client is the same unless its method gives the new interface. -/
theorem clientMember {ex : Exclusions} {owner : GoType} {m : Method} (hm : ¬ m.GivesOnly a) :
  s'.clientMember ex owner m = s.clientMember ex owner m
  := by
  rw [Schema.clientMember, Schema.clientMember, h.accessed? hm]
  split
  · next t ht => rw [resource, resource, h.accessedMethods ht hm]
  · rfl

/-- The client of an accessor is the same if no method of its interface gives the one apart. -/
theorem client {ex : Exclusions} {owner : GoType} {m : Method} {t : GoType}
    (ht : s.accessed? ex.clientset m = some t) (hm : ¬ m.GivesOnly a)
    (hmembers : ∀ n ∈ (s.methods? t).getD [], ¬ n.GivesOnly a) :
  s'.client ex owner m t = s.client ex owner m t
  := by
  rw [Schema.client, Schema.client, h.accessedMethods ht hm]
  congr 1
  cases hmethods : s.accessedMethods owner m t with
  | error e => rfl
  | ok ms =>
      rw [accessedMethods_eq_ok.mp hmethods, Option.getD_some] at hmembers
      have hsteps : ms.mapM (s'.clientMember ex t) = ms.mapM (s.clientMember ex t) := by
        apply Outcome.mapM_congr
        intro n hn
        apply h.clientMember (hmembers n hn)
      change (ms.mapM (s'.clientMember ex t) >>= _) = (ms.mapM (s.clientMember ex t) >>= _)
      rw [hsteps]

/-- A walk has the same outcome and notes the same events if no method that it looks at gives the
interface apart. -/
theorem walk {ex : Exclusions} (hroot : s.root.key? ≠ some a) (hgives : ¬ s.Gives ex a) :
  s'.walk ex = s.walk ex
  := by
  rw [Schema.walk, Schema.walk, h.root, h.methods? hroot]
  cases hmethods : s.methods? s.root with
  | none => rfl
  | some ms =>
      have hsteps : ms.mapM (s'.clientsetMember ex) = ms.mapM (s.clientsetMember ex) := by
        apply Outcome.mapM_congr
        intro m hm
        have hm' : ¬ m.GivesOnly a := by
          intro hm'
          apply hgives (Or.inl ⟨m, ?_, hm'⟩)
          rwa [hmethods]
        rw [clientsetMember, clientsetMember, h.accessed? hm', h.root]
        split
        · next t ht =>
            have hmem : (m, t) ∈ s.clientAccessors ex := by
              rw [clientAccessors, hmethods]
              apply mem_accessors.mpr ⟨hm, ht⟩
            rw [h.client ht hm']
            intro n hn hn'
            apply hgives (Or.inr ⟨(m, t), hmem, n, hn, hn'⟩)
        · rfl
      simp only [hsteps]

end Schema.SameApart

namespace SchemaSource

/-- If a description is still accepted when a declaration is added to it, all other interfaces keep
their methods. The walk, the text of the emitted file and with them every error are the same unless
the new interface is the only result of a method of the root or of the interface of a client. It may
embed other interfaces, and other methods may mention it in any place. -/
theorem resolve_added {s s' : SchemaSource} {d : InterfaceDecl} {schema schema' : Schema}
    (h : s.Adds d s') (hs : s.resolve = .ok schema) (hs' : s'.resolve = .ok schema') :
  schema'.root = schema.root
    ∧ (∀ a, a ≠ d.key → schema'.methodsOf? a = schema.methodsOf? a)
    ∧ ∀ ex, ¬ schema.Gives ex d.key →
      schema'.walk ex = schema.walk ex
      ∧ ∀ (ins : Instrumentation) (o : RenderOptions),
        (do
          let file ← ins.render o (← (schema'.walk ex).outcome)
          return file.text)
        = (do
          let file ← ins.render o (← (schema.walk ex).outcome)
          return file.text)
  := by
  have hsame := h.sameApart hs hs'
  obtain ⟨hacceptable, hdescribes⟩ := describes_of_resolve hs
  obtain ⟨hacceptable', -⟩ := describes_of_resolve hs'
  have hroot : schema.root.key? ≠ some d.key := by
    obtain ⟨a, ha, hdeclared⟩ := hacceptable.root
    rw [hdescribes.root, ha]
    rintro heq
    obtain rfl := Option.some.inj heq
    apply h.not_declares hacceptable'.distinct hdeclared
  refine ⟨hsame.root, hsame.methodsOf?, fun ex hgives => ?_⟩
  have hwalk := hsame.walk hroot hgives
  use hwalk
  intro ins o
  rw [hwalk]

/-- A clientset whose methods mention an interface that is not declared, among the parameters of one
and among the two results of another. -/
def watchSource : SchemaSource where
  root := .named "example.com/kubernetes" "Interface"
  interfaces :=
    [⟨.named "example.com/kubernetes" "Interface", [],
        [⟨"CoreV1", [], [.named "example.com/core/v1" "CoreV1Interface"]⟩]⟩,
      ⟨.named "example.com/core/v1" "CoreV1Interface", [],
        [⟨"Pods", [], [.named "example.com/core/v1" "PodInterface"]⟩,
          ⟨"WatchAll", [], [.named "example.com/watch" "Watcher", .builtin "error"]⟩]⟩,
      ⟨.named "example.com/core/v1" "PodInterface", [],
        [⟨"Watch", [.pointer (.named "example.com/watch" "Watcher")], [.builtin "error"]⟩]⟩]
  externals := []

/-- The interface with methods of its own and those of a resource. -/
def watcherDecl : InterfaceDecl :=
  ⟨.named "example.com/watch" "Watcher", [.named "example.com/core/v1" "PodInterface"],
    [⟨"Stop", [], []⟩]⟩

/-- The schema of the clientset. -/
def watchSchema : Schema where
  root := .named "example.com/kubernetes" "Interface"
  interfaces :=
    [("example.com/core/v1.CoreV1Interface",
        [⟨"Pods", [], [.named "example.com/core/v1" "PodInterface"]⟩,
          ⟨"WatchAll", [], [.named "example.com/watch" "Watcher", .builtin "error"]⟩]),
      ("example.com/core/v1.PodInterface",
        [⟨"Watch", [.pointer (.named "example.com/watch" "Watcher")], [.builtin "error"]⟩]),
      ("example.com/kubernetes.Interface",
        [⟨"CoreV1", [], [.named "example.com/core/v1" "CoreV1Interface"]⟩])]
  externals := []

/-- The interface is declared before all others. -/
theorem resolve_added_watcher :
  ∃ s' schema', watchSource.Adds watcherDecl s'
    ∧ watchSource.resolve = .ok watchSchema ∧ s'.resolve = .ok schema'
    ∧ ¬ watchSchema.Gives Exclusions.default watcherDecl.key
    ∧ schema'.walk Exclusions.default = watchSchema.walk Exclusions.default
  := by
  have hs : watchSource.resolve = .ok watchSchema := by decide +kernel
  have hs' : ({ watchSource with
      interfaces := watcherDecl :: watchSource.interfaces }).resolve.toOption.isSome := by
    decide +kernel
  have hgives : ¬ watchSchema.Gives Exclusions.default watcherDecl.key := by decide +kernel
  obtain ⟨schema', hs'⟩ := Outcome.exists_of_isSome hs'
  have hadds : watchSource.Adds watcherDecl
      { watchSource with interfaces := watcherDecl :: watchSource.interfaces } :=
    ⟨rfl, ⟨[], watchSource.interfaces, rfl, rfl⟩, rfl⟩
  refine ⟨_, schema', hadds, hs, hs', hgives, ?_⟩
  obtain ⟨-, -, hwalk⟩ := resolve_added hadds hs hs'
  apply (hwalk _ hgives).1

end SchemaSource

end ClientWrap
