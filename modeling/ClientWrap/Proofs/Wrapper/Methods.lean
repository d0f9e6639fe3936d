import ClientWrap.Proofs.Wrapper.Printing
import Mathlib.Data.List.Perm.Basic

/-!
# The methods of the wrappers

A wrapper has a method for every method of the interface that it wraps, in their order, with the
same name and the same types (`render_methodLines`). The methods of a file fall into blocks, one for
each wrapper. Since a walk gives different names to the wrappers, the block of a wrapper is found by
the receiver of its methods.
-/

namespace ClientWrap

open ClientWrap.Code ClientWrap.Text

/-- The wrapper type of the name stands for the interface type. -/
inductive Wraps (cs : Clientset) : String → GoType → Prop where
  | clientset : Wraps cs "clientset" cs.type
  | client {c : Client} : c ∈ cs.clients → Wraps cs c.wrapper c.type
  | resource {c : Client} {r : Resource} :
      c ∈ cs.clients → r ∈ c.resources → Wraps cs (r.wrapper c) r.type

/-- The line opens a method of the receiver that has the name of the method, its parameter types,
each after some identifier, and its result types. -/
def OpensMethod (receiver : String) (m : Method) (line : String) : Prop :=
  ∃ params : List (String × GoType), params.map (·.2) = m.params
    ∧ (∀ p ∈ params, isIdentifier p.1.toList)
    ∧ line = "func (c *" ++ receiver ++ ") " ++ m.name ++ "(" ++ paramsText params ++ ")"
      ++ resultsText m.results ++ " \x7b"

/-- The function is a method of the receiver with the signature of the method. -/
structure Code.Func.Implements (f : Func) (receiver : String) (m : Method) : Prop where
  receiver : f.receiver = some receiver
  name : f.name = m.name
  params : f.params.map (·.2) = m.params
  names : ∀ p ∈ f.params, isIdentifier p.1.toList
  results : f.results = m.results

/-- The line that opens a method with a signature has this signature. -/
theorem Code.Func.Implements.opensMethod {f : Func} {receiver : String} {m : Method}
    (h : f.Implements receiver m) :
  OpensMethod receiver m f.header
  := by
  use f.params, h.params, h.names
  rw [header, h.receiver, h.name, h.results]
  apply String.toList_inj.mp
  simp

/-- A method of a wrapper with the signature of a method implements it. -/
theorem Method.wrapperFunc_implements (m : Method) (receiver : String) (body : List Stmt) :
  (m.wrapperFunc receiver body).Implements receiver m
  := by
  constructor
  · rfl
  · rfl
  · apply m.map_snd_namedParams
  · intro p hp
    apply (mem_namedParams hp).1
  · rfl

/-! ### Blocks -/

/-- A wrapper type with the interface that it stands for and its methods. -/
structure Block where
  receiver : String
  type : GoType
  funcs : List Func

namespace Instrumentation

/-- The method of the clientset wrapper for a member. -/
def clientsetMethod : Member Client → Func
  | .direct m => m.passThrough "clientset"
  | .wrapped c => clientAccessor c

/-- The method of a client wrapper for a member. -/
def clientMethod (ins : Instrumentation) (c : Client) : Member Resource → Func
  | .direct m => m.passThrough c.wrapper
  | .wrapped r => ins.resourceAccessor c r

/-- The wrapper of the clientset. -/
def clientsetBlock (cs : Clientset) : Block :=
  ⟨"clientset", cs.type, cs.members.map clientsetMethod⟩

/-- The wrapper of a client. -/
def clientBlock (ins : Instrumentation) (c : Client) : Block :=
  ⟨c.wrapper, c.type, c.members.map (ins.clientMethod c)⟩

/-- The wrapper of a resource. -/
def resourceBlock (ins : Instrumentation) (c : Client) (r : Resource) : Block :=
  ⟨r.wrapper c, r.type, r.operations.map (ins.operationFunc c r)⟩

/-- All wrappers in the order in which they are declared. -/
def blocks (ins : Instrumentation) (cs : Clientset) : List Block :=
  clientsetBlock cs ::
    (cs.clients.map ins.clientBlock
      ++ cs.clients.flatMap fun c => c.resources.map (ins.resourceBlock c))

section

variable {ins : Instrumentation} {cs : Clientset} {c : Client} {r : Resource}

/-- Each client has its block. -/
theorem clientBlock_mem_blocks (hc : c ∈ cs.clients) :
  ins.clientBlock c ∈ ins.blocks cs
  := by
  apply List.mem_cons_of_mem
  apply List.mem_append_left
  apply List.mem_map_of_mem hc

/-- Each resource has its block. -/
theorem resourceBlock_mem_blocks (hc : c ∈ cs.clients) (hr : r ∈ c.resources) :
  ins.resourceBlock c r ∈ ins.blocks cs
  := by
  apply List.mem_cons_of_mem
  apply List.mem_append_right
  apply List.mem_flatMap.mpr ⟨c, hc, List.mem_map_of_mem hr⟩

/-- Every wrapper is that of the clientset, of a client or of a resource. -/
theorem forall_mem_blocks {P : Block → Prop} (hclientset : P (clientsetBlock cs))
    (hclient : ∀ c ∈ cs.clients, P (ins.clientBlock c))
    (hresource : ∀ c ∈ cs.clients, ∀ r ∈ c.resources, P (ins.resourceBlock c r)) :
  ∀ b ∈ ins.blocks cs, P b
  := by
  intro b hb
  rw [blocks, List.mem_cons, List.mem_append] at hb
  rcases hb with rfl | hb | hb
  · apply hclientset
  · obtain ⟨c, hc, rfl⟩ := List.mem_map.mp hb
    apply hclient c hc
  · obtain ⟨c, hc, hb⟩ := List.mem_flatMap.mp hb
    obtain ⟨r, hr, rfl⟩ := List.mem_map.mp hb
    apply hresource c hc r hr

end

variable (ins : Instrumentation) (cs : Clientset)

/-- The struct and the constructor of a wrapper are no methods. -/
theorem filterMap_wrapperItems (constructor wrapper : String) (type : GoType)
    (state : List Carried) :
  (wrapperItems constructor wrapper type state).filterMap Item.method? = []
  := rfl

/-- The methods among the parts of the clientset itself are those of its block. -/
theorem filterMap_clientsetItems :
  (clientsetItems cs).filterMap Item.method? = (clientsetBlock cs).funcs
  := by
  have hmember : ∀ member,
      (clientsetMemberItems member).filterMap Item.method? = [clientsetMethod member] := by
    intro member
    cases member <;> rfl
  rw [clientsetItems, List.filterMap_append, List.filterMap_flatMap]
  simp only [hmember]
  rw [← List.map_eq_flatMap]
  rfl

/-- The methods among the parts of a client are those of its block. -/
theorem filterMap_clientItems (c : Client) :
  (ins.clientItems c).filterMap Item.method? = (ins.clientBlock c).funcs
  := by
  have hmember : ∀ member,
      (ins.clientMemberItems c member).filterMap Item.method? = [ins.clientMethod c member] := by
    intro member
    cases member <;> rfl
  rw [clientItems, List.filterMap_append, filterMap_wrapperItems, List.filterMap_flatMap]
  simp only [hmember]
  rw [← List.map_eq_flatMap]
  rfl

/-- The methods among the parts of a resource are those of its block. -/
theorem filterMap_resourceItems (c : Client) (r : Resource) :
  (ins.resourceItems c r).filterMap Item.method? = (ins.resourceBlock c r).funcs
  := by
  rw [resourceItems, List.filterMap_append, filterMap_wrapperItems, List.filterMap_map]
  apply congrFun List.filterMap_eq_map r.operations

/-- The methods of a file are those of its wrappers. -/
theorem filterMap_items (o : RenderOptions) :
  (ins.items o cs).filterMap Item.method? = (ins.blocks cs).flatMap Block.funcs
  := by
  have hfuncs : ([Item.gap, .comment "Wrap", .func (ins.wrapFunc cs)] ++
      if o.newForConfig then
        [Item.gap, .comment "NewForConfig", .func (ins.newForConfigFunc o.restPackage cs)]
      else []).filterMap Item.method? = [] := by
    cases o.newForConfig <;> rfl
  rw [items, List.filterMap_append, List.filterMap_append, List.filterMap_append, hfuncs,
    filterMap_clientsetItems, List.filterMap_flatMap, List.filterMap_flatMap]
  simp only [List.filterMap_flatMap, filterMap_clientItems, filterMap_resourceItems]
  simp [blocks, List.flatMap_map, List.flatMap_assoc]

/-- The headers of the methods are the same for all instrumentations. -/
theorem headers_eq (ins' : Instrumentation) :
  ((ins.blocks cs).flatMap Block.funcs).map Func.header
    = ((ins'.blocks cs).flatMap Block.funcs).map Func.header
  := by
  have hclient : ∀ c, (ins.clientBlock c).funcs.map Func.header
      = (ins'.clientBlock c).funcs.map Func.header := by
    intro c
    rw [clientBlock, clientBlock, List.map_map, List.map_map]
    apply List.map_congr_left
    intro member _
    cases member <;> rfl
  have hresource : ∀ c r, (ins.resourceBlock c r).funcs.map Func.header
      = (ins'.resourceBlock c r).funcs.map Func.header := by
    intro c r
    rw [resourceBlock, resourceBlock, List.map_map, List.map_map]
    rfl
  simp only [blocks, List.flatMap_cons, List.flatMap_append, List.flatMap_map, List.flatMap_assoc,
    List.map_append, List.map_flatMap, hclient, hresource]

/-! ### Receivers -/

variable {ins cs}

/-- The name of a wrapper among the names that must differ. -/
def wrapperName? : SharedName → Option String
  | .field _ => none
  | .wrapper name => some name

/-- The wrappers among the names of a clientset are those of its clients and their resources. -/
theorem filterMap_names :
  cs.names.filterMap wrapperName?
    = cs.clients.flatMap fun c => c.wrapper :: c.resources.map fun r => r.wrapper c
  := by
  have hclient : ∀ c : Client,
      (SharedName.field c.field :: .wrapper c.wrapper ::
          c.resources.map fun r => SharedName.wrapper (r.wrapper c)).filterMap wrapperName?
        = c.wrapper :: c.resources.map fun r => r.wrapper c := by
    intro c
    simp only [List.filterMap_cons, wrapperName?, List.filterMap_map]
    congr 1
    apply congrFun List.filterMap_eq_map c.resources
  rw [Clientset.names, List.filterMap_cons, List.filterMap_flatMap]
  simp only [hclient]
  rfl

/-- The receivers are the wrappers of the clientset, the clients and the resources. -/
theorem map_receiver_blocks :
  (ins.blocks cs).map Block.receiver
    = "clientset" :: (cs.clients.map Client.wrapper
      ++ cs.clients.flatMap fun c => c.resources.map fun r => r.wrapper c)
  := by
  simp only [blocks, List.map_cons, List.map_append, List.map_map, List.map_flatMap]
  rfl

/-- No wrapper of a client or resource is named as that of the clientset is. -/
theorem ne_clientset_of_beginsWith {s : String} (h : BeginsWith "wrapped" s) :
  s ≠ "clientset"
  := by
  rintro rfl
  revert h
  decide

/-- The wrappers have different names if the names of the clientset differ. Their order is another
one: the names list the resources of a client after it, the wrappers all clients first. -/
theorem nodup_receivers (hnames : cs.names.Nodup) :
  ((ins.blocks cs).map Block.receiver).Nodup
  := by
  have hwrappers : (cs.names.filterMap wrapperName?).Nodup := by
    apply hnames.filterMap
    rintro a a' name ha ha'
    cases a with
    | field _ => contradiction
    | wrapper n =>
        cases a' with
        | field _ => contradiction
        | wrapper n' =>
            rw [Option.some.inj ha, Option.some.inj ha']
  rw [filterMap_names] at hwrappers
  have hperm := cs.clients.map_append_flatMap_perm Client.wrapper
    fun c => c.resources.map fun r => r.wrapper c
  rw [map_receiver_blocks, List.nodup_cons]
  constructor
  · rw [hperm.mem_iff]
    intro hmem
    obtain ⟨c, -, hmem⟩ := List.mem_flatMap.mp hmem
    rcases List.mem_cons.mp hmem with h | hmem
    · apply ne_clientset_of_beginsWith _ h.symm
      apply beginsWith_append
    · obtain ⟨r, -, h⟩ := List.mem_map.mp hmem
      apply ne_clientset_of_beginsWith _ h
      apply (beginsWith_append "wrapped" c.typeName).append
  · apply hperm.nodup_iff.mpr hwrappers

/-- A wrapper stands for a type exactly if there is a block for both. -/
theorem wraps_iff (ins : Instrumentation) {receiver : String} {type : GoType} :
  Wraps cs receiver type ↔ ∃ b ∈ ins.blocks cs, b.receiver = receiver ∧ b.type = type
  := by
  constructor
  · intro h
    cases h with
    | clientset => exact ⟨clientsetBlock cs, List.mem_cons_self, rfl, rfl⟩
    | @client c hc => exact ⟨ins.clientBlock c, clientBlock_mem_blocks hc, rfl, rfl⟩
    | @resource c r hc hr =>
        exact ⟨ins.resourceBlock c r, resourceBlock_mem_blocks hc hr, rfl, rfl⟩
  · have hwraps : ∀ b ∈ ins.blocks cs, Wraps cs b.receiver b.type := by
      apply forall_mem_blocks
      · apply Wraps.clientset
      · intro c hc
        apply Wraps.client hc
      · intro c hc r hr
        apply Wraps.resource hc hr
    rintro ⟨b, hb, rfl, rfl⟩
    apply hwraps b hb

/-! ### The walk -/

section

variable {s : Schema} {ex : Exclusions}

/-- The method of the clientset wrapper for a member has the signature that the member stands
for. -/
theorem implements_clientsetMethod {m : Method} {member : Member Client}
    (h : s.IsClientsetMember ex m member) :
  (clientsetMethod member).Implements "clientset" m
  := by
  cases h with
  | direct _ => apply m.wrapperFunc_implements
  | wrapped _ hc =>
      obtain ⟨rfl, -, hparams, -⟩ := hc
      constructor
      · rfl
      · rfl
      · apply hparams.symm
      · apply List.forall_mem_nil
      · rfl

/-- The method of a client wrapper for a member has the signature that the member stands for. -/
theorem implements_clientMethod {c : Client} {m : Method} {member : Member Resource}
    (h : s.IsClientMember ex m member) :
  (ins.clientMethod c member).Implements c.wrapper m
  := by
  cases h with
  | direct _ => apply m.wrapperFunc_implements
  | @wrapped _ r _ hr =>
      obtain ⟨rfl, -, -, hscope⟩ := hr
      have hparams : r.accessor.params.take 1 = r.accessor.params := by
        rcases hscope with ⟨-, hnil⟩ | ⟨-, p, hone, -⟩
        · rw [hnil, List.take_nil]
        · rw [hone, List.take_succ_cons, List.take_zero]
      constructor
      · rfl
      · rfl
      · change r.namespaceParam.map _ = _
        rw [Resource.namespaceParam, List.map_map, hparams]
        apply List.map_id
      · intro p hp
        obtain ⟨t, -, rfl⟩ := List.mem_map.mp hp
        change isIdentifier "namespace".toList = true
        decide
      · rfl

/-- Every wrapper implements the methods of the interface that it stands for. -/
theorem implements_of_mem_blocks (hcs : s.IsClientset ex cs) :
  ∀ b ∈ ins.blocks cs, ∃ ms, s.methods? b.type = some ms
    ∧ List.Forall₂ (fun m f => f.Implements b.receiver m) ms b.funcs
  := by
  apply forall_mem_blocks
  · obtain ⟨htype, ms, hms, hmembers⟩ := hcs
    use ms
    rw [clientsetBlock, htype, List.forall₂_map_right_iff]
    exact ⟨hms, hmembers.imp fun _ _ => implements_clientsetMethod⟩
  · intro c hc
    obtain ⟨m, t, -, rfl, -, ms, hms, hmembers⟩ := hcs.exists_isClient hc
    use ms
    rw [clientBlock, List.forall₂_map_right_iff]
    exact ⟨hms, hmembers.imp fun _ _ => implements_clientMethod⟩
  · intro c hc r hr
    obtain ⟨m, t, hclient⟩ := hcs.exists_isClient hc
    obtain ⟨m', t', -, rfl, hoperations, -⟩ := hclient.exists_isResource hr
    use r.operations
    rw [resourceBlock, List.forall₂_map_right_iff, List.forall₂_same]
    use hoperations
    intro m _
    apply m.wrapperFunc_implements

/-- The methods of a block have its receiver. -/
theorem receiver_of_mem_blocks (hcs : s.IsClientset ex cs) :
  ∀ b ∈ ins.blocks cs, ∀ f ∈ b.funcs, f.receiver = some b.receiver
  := by
  intro b hb f hf
  obtain ⟨ms, -, hms⟩ := implements_of_mem_blocks hcs b hb
  obtain ⟨m, -, hm⟩ := Outcome.exists_of_mem_right hms hf
  apply hm.receiver

end

/-- The methods of a wrapper are those with its receiver. -/
theorem filter_receiver {bs : List Block} (hnodup : (bs.map Block.receiver).Nodup)
    (hreceiver : ∀ b ∈ bs, ∀ f ∈ b.funcs, f.receiver = some b.receiver) {b : Block}
    (hb : b ∈ bs) :
  (bs.flatMap Block.funcs).filter (·.receiver = some b.receiver) = b.funcs
  := by
  induction bs with
  | nil => contradiction
  | cons b' bs ih =>
      rw [List.map_cons, List.nodup_cons] at hnodup
      obtain ⟨hb', hbs⟩ := List.forall_mem_cons.mp hreceiver
      rw [List.flatMap_cons, List.filter_append]
      rcases List.mem_cons.mp hb with rfl | hmem
      · rw [List.filter_eq_self.mpr, List.filter_eq_nil_iff.mpr, List.append_nil]
        · intro f hf
          obtain ⟨b'', hb'', hf⟩ := List.mem_flatMap.mp hf
          have hne := ne_of_mem_of_not_mem (List.mem_map_of_mem hb'') hnodup.1
          simpa [hbs b'' hb'' f hf] using hne
        · intro f hf
          simpa using hb' f hf
      · rw [List.filter_eq_nil_iff.mpr, List.nil_append, ih hnodup.2 hbs hmem]
        intro f hf
        have hne := ne_of_mem_of_not_mem (List.mem_map_of_mem hmem) hnodup.1
        simpa [hb' f hf] using hne.symm

/-- No wrapper has a closing parenthesis in its name, so a receiver ends where it is read to end. -/
theorem not_mem_of_wraps (hcs : cs.Proper) {receiver : String} {type : GoType}
    (h : Wraps cs receiver type) :
  ')' ∉ receiver.toList
  := by
  cases h with
  | clientset => decide
  | client hc => apply not_mem_of_isIdentifier (hcs.client hc).isIdentifier_wrapper rfl
  | resource hc hr =>
      have hc := hcs.client hc
      apply not_mem_of_isIdentifier ((hc.resource hr).isIdentifier_wrapper hc) rfl

end Instrumentation

/-! ### The file -/

/-- The instrumentation is one of those that the program offers, with some settings. -/
inductive IsTemplate : Instrumentation → Prop where
  | metrics (package : String) : IsTemplate (Metrics.instrumentation package)
  | traces (t : TracingSettings) (component : String) :
      IsTemplate (Traces.instrumentation t component)

/-- What the wrapper of a client carries has the types of the further parameters of `Wrap`, in the
same order, so the constructor of a client takes exactly what `Wrap` passes to it. -/
theorem IsTemplate.types_clientState {ins : Instrumentation} (h : IsTemplate ins) :
  ins.clientState.map Carried.type = ins.clientsetParams.map Prod.snd
  := by
  cases h with
  | metrics package => rfl
  | traces t component => rfl

/-- The instrumentation of a template is printable. -/
theorem IsTemplate.printable {ins : Instrumentation} (h : IsTemplate ins) :
  ins.Printable
  := by
  cases h with
  | metrics package => apply Metrics.printable_instrumentation
  | traces t component => apply Traces.printable_instrumentation

section

variable {ins : Instrumentation} {o : RenderOptions} {cs : Clientset} {file : File}

/-- The parts of a rendered file are those of the instrumentation. -/
theorem items_of_render (h : ins.render o cs = .ok file) :
  file.items = ins.items o cs
  := by
  obtain ⟨_, -, h⟩ := Outcome.bind_eq_ok.mp h
  rw [← Except.ok.inj h]

/-- A rendered file is printable. -/
theorem printable_of_render (hins : ins.Printable) (hcs : cs.Proper)
    (h : ins.render o cs = .ok file) :
  file.Printable
  := by
  rw [File.Printable, items_of_render h]
  apply hins.items hcs

/-- The methods of a file are those of its blocks in turn. -/
theorem methods_of_render (h : ins.render o cs = .ok file) :
  file.methods = (ins.blocks cs).flatMap Block.funcs
  := by
  rw [File.methods, items_of_render h, Instrumentation.filterMap_items]

/-- No receiver of a file has a closing parenthesis in it. -/
theorem not_mem_receiver_of_render {s : Schema} {ex : Exclusions} (hproper : cs.Proper)
    (hcs : s.IsClientset ex cs) (h : ins.render o cs = .ok file) :
  ∀ m ∈ file.methods, ∀ r, m.receiver = some r → ')' ∉ r.toList
  := by
  intro m hm r hr
  rw [methods_of_render h] at hm
  obtain ⟨b, hb, hm⟩ := List.mem_flatMap.mp hm
  have hreceiver := Instrumentation.receiver_of_mem_blocks hcs b hb m hm
  obtain rfl : b.receiver = r := Option.some.inj (hreceiver.symm.trans hr)
  apply Instrumentation.not_mem_of_wraps hproper
  apply ins.wraps_iff.mpr ⟨b, hb, rfl, rfl⟩

/-- The lines of a file that open a method of a wrapper stand, in order, for the methods of the
interface that is wrapped. -/
theorem receiverLines_of_render {s : Schema} {ex : Exclusions} (hins : ins.Printable)
    (hproper : cs.Proper) (hcs : s.IsClientset ex cs) (hnames : cs.names.Nodup)
    (h : ins.render o cs = .ok file) {receiver : String} {type : GoType}
    (hwraps : Wraps cs receiver type) :
  ∃ ms, s.methods? type = some ms
    ∧ List.Forall₂ (OpensMethod receiver) ms
      ((Text.lines file.body).filter (BeginsWith ("func (c *" ++ receiver ++ ") ")))
  := by
  obtain ⟨b, hb, rfl, rfl⟩ := ins.wraps_iff.mp hwraps
  obtain ⟨ms, hms, himplements⟩ := ins.implements_of_mem_blocks hcs b hb
  use ms, hms
  rw [(printable_of_render hins hproper h).filter_receiverLines
      (Instrumentation.not_mem_of_wraps hproper hwraps) (not_mem_receiver_of_render hproper hcs h),
    methods_of_render h,
    Instrumentation.filter_receiver (Instrumentation.nodup_receivers hnames)
      (Instrumentation.receiver_of_mem_blocks hcs) hb,
    List.forall₂_map_right_iff]
  apply himplements.imp fun _ _ hm => hm.opensMethod

/-- Every line of a file that opens a method has a wrapper as its receiver. -/
theorem exists_wraps_of_render {s : Schema} {ex : Exclusions} (hins : ins.Printable)
    (hproper : cs.Proper) (hcs : s.IsClientset ex cs) (h : ins.render o cs = .ok file)
    {line : String} (hline : line ∈ Text.lines file.body) (hmethod : BeginsWith "func (" line) :
  ∃ receiver type, Wraps cs receiver type ∧ BeginsWith ("func (c *" ++ receiver ++ ") ") line
  := by
  have hmem : line ∈ (Text.lines file.body).filter (BeginsWith "func (") := by
    simpa using ⟨hline, hmethod⟩
  rw [(printable_of_render hins hproper h).filter_methodLines, methods_of_render h] at hmem
  obtain ⟨f, hf, rfl⟩ := List.mem_map.mp hmem
  obtain ⟨b, hb, hf⟩ := List.mem_flatMap.mp hf
  obtain ⟨ms, -, hms⟩ := ins.implements_of_mem_blocks hcs b hb
  obtain ⟨m, -, hm⟩ := Outcome.exists_of_mem_right hms hf
  use b.receiver, b.type, ins.wraps_iff.mpr ⟨b, hb, rfl, rfl⟩
  rw [Func.header, hm.receiver]
  simp [BeginsWith]

end

/-- Of the text after the import block, the lines that open a method of a wrapper stand, in order,
for the methods of the interface that is wrapped: each has the name of its method and the types of
all its parameters and results. No other receiver occurs, and the files of all templates have the
same lines of this kind. -/
theorem render_methodLines {source : SchemaSource} {s : Schema} {ex : Exclusions}
    {cs : Clientset} (hparsed : source.Parsed) (hresolve : source.resolve = .ok s)
    (hwalk : (s.walk ex).outcome = .ok cs) :
  cs.type = s.root
    ∧ (∀ ins o file, IsTemplate ins → ins.render o cs = .ok file →
      file.text = ofLines (preambleLines file.package file.imports) ++ file.body
      ∧ (∀ receiver type, Wraps cs receiver type →
        ∃ ms, s.methods? type = some ms
          ∧ List.Forall₂ (OpensMethod receiver) ms
            ((Text.lines file.body).filter (BeginsWith ("func (c *" ++ receiver ++ ") "))))
      ∧ ∀ line ∈ Text.lines file.body, BeginsWith "func (" line →
        ∃ receiver type, Wraps cs receiver type
          ∧ BeginsWith ("func (c *" ++ receiver ++ ") ") line)
    ∧ ∀ ins o file ins' o' file', IsTemplate ins → ins.render o cs = .ok file →
      IsTemplate ins' → ins'.render o' cs = .ok file' →
      (Text.lines file.body).filter (BeginsWith "func (")
        = (Text.lines file'.body).filter (BeginsWith "func (")
  := by
  obtain ⟨hcs, hnames⟩ := Schema.walk_eq_ok.mp hwalk
  have hproper := hcs.proper (SchemaSource.proper_of_resolve hparsed hresolve)
  and_intros
  · apply hcs.type
  · intro ins o file hins h
    and_intros
    · apply file.text_eq
    · intro receiver type
      apply receiverLines_of_render hins.printable hproper hcs hnames h
    · intro line hline
      apply exists_wraps_of_render hins.printable hproper hcs h hline
  · intro ins o file ins' o' file' hins h hins' h'
    rw [(printable_of_render hins.printable hproper h).filter_methodLines, methods_of_render h,
      (printable_of_render hins'.printable hproper h').filter_methodLines, methods_of_render h',
      ins.headers_eq cs ins']

/-- An operation whose name has two words. -/
def updatePodStatus : Method :=
  ⟨"UpdateStatus", [.named "context" "Context", .pointer (.named "example.com/api/v1" "Pod")],
    [.pointer (.named "example.com/api/v1" "Pod"), .builtin "error"]⟩

/-- A clientset with one client and one resource, which has this operation. -/
def podSource : SchemaSource where
  root := .named "example.com/kubernetes" "Interface"
  interfaces :=
    [⟨.named "example.com/kubernetes" "Interface", [],
        [⟨"CoreV1", [], [.named "example.com/core/v1" "CoreV1Interface"]⟩]⟩,
      ⟨.named "example.com/core/v1" "CoreV1Interface",
        [.named "example.com/core/v1" "PodsGetter"], []⟩,
      ⟨.named "example.com/core/v1" "PodsGetter", [],
        [⟨"Pods", [.builtin "string"], [.named "example.com/core/v1" "PodInterface"]⟩]⟩,
      ⟨.named "example.com/core/v1" "PodInterface", [], [updatePodStatus]⟩]
  externals := []

/-- The resource of the source. -/
def podResource : Resource where
  accessor := ⟨"Pods", [.builtin "string"], [.named "example.com/core/v1" "PodInterface"]⟩
  type := .named "example.com/core/v1" "PodInterface"
  scope := .namespaced
  operations := [updatePodStatus]

/-- The client of the source. -/
def coreClient : Client where
  accessor := ⟨"CoreV1", [], [.named "example.com/core/v1" "CoreV1Interface"]⟩
  type := .named "example.com/core/v1" "CoreV1Interface"
  members := [.wrapped podResource]

/-- The clientset of the source. -/
def podClientset : Clientset where
  type := .named "example.com/kubernetes" "Interface"
  members := [.wrapped coreClient]

/-- The types of the source are parsed ones. -/
theorem parsed_podSource :
  podSource.Parsed
  := by decide +kernel

/-- The walk of the source finds the clientset. -/
theorem walk_podSource :
  ∃ s, podSource.resolve = .ok s ∧ (s.walk Exclusions.default).outcome = .ok podClientset
  := by
  apply Outcome.exists_of_toOption
  decide +kernel

/-- The clientset of the source has a file with metrics. -/
theorem exists_render_podClientset :
  ∃ file, (Metrics.instrumentation "example.com/metrics").render
    ⟨"wrapped", "example.com/rest", true⟩ podClientset = .ok file
  := by
  apply Outcome.exists_of_isSome
  decide +kernel

/-- A clientset with one client and one resource: the only method of the clientset wrapper and the
only one of the resource wrapper, with two parameters of some names. -/
theorem render_methodLines_pod :
  podSource.Parsed
    ∧ ∃ s file, podSource.resolve = .ok s
      ∧ (s.walk Exclusions.default).outcome = .ok podClientset
      ∧ (Metrics.instrumentation "example.com/metrics").render
        ⟨"wrapped", "example.com/rest", true⟩ podClientset = .ok file
      ∧ (Text.lines file.body).filter (BeginsWith "func (c *clientset) ")
        = ["func (c *clientset) CoreV1() example_com_core_v1.CoreV1Interface \x7b"]
      ∧ ∃ a b, (Text.lines file.body).filter
          (BeginsWith "func (c *wrappedCoreV1InterfacePodInterface) ")
        = ["func (c *wrappedCoreV1InterfacePodInterface) UpdateStatus(" ++ a
          ++ " context.Context, " ++ b
          ++ " *example_com_api_v1.Pod) (*example_com_api_v1.Pod, error) \x7b"]
  := by
  have hmethods : podSource.resolve.toOption.map (fun s =>
      (s.methods? podClientset.type, s.methods? podResource.type))
      = some (some [coreClient.accessor], some [updatePodStatus]) := by decide +kernel
  obtain ⟨s, hresolve, hwalk⟩ := walk_podSource
  obtain ⟨file, hrender⟩ := exists_render_podClientset
  obtain ⟨-, hlines, -⟩ := render_methodLines parsed_podSource hresolve hwalk
  obtain ⟨-, hlines, -⟩ := hlines _ _ file (IsTemplate.metrics _) hrender
  rw [hresolve] at hmethods
  obtain ⟨hclientset, hpod⟩ := Prod.mk.inj (Option.some.inj hmethods)
  refine ⟨parsed_podSource, s, file, hresolve, hwalk, hrender, ?_, ?_⟩
  · obtain ⟨ms, hms, hopens⟩ := hlines _ _ Wraps.clientset
    obtain rfl := Option.some.inj (hclientset.symm.trans hms)
    obtain ⟨line, ⟨params, hparams, -, rfl⟩, hfilter⟩ :=
      Outcome.exists_of_forall₂_singleton hopens
    obtain rfl := List.map_eq_nil_iff.mp hparams
    have hreceiver : "func (c *" ++ "clientset" ++ ") " = "func (c *clientset) " := by decide
    have hresults : resultsText coreClient.accessor.results
        = " example_com_core_v1.CoreV1Interface" := by decide
    have hnone : paramsText [] = "" := rfl
    rw [hreceiver, hresults, hnone] at hfilter
    rw [hfilter]
    decide
  · have hwraps : Wraps podClientset (podResource.wrapper coreClient) podResource.type :=
      Wraps.resource (List.mem_singleton_self coreClient) (List.mem_singleton_self podResource)
    obtain ⟨ms, hms, hopens⟩ := hlines _ _ hwraps
    obtain rfl := Option.some.inj (hpod.symm.trans hms)
    obtain ⟨line, ⟨params, hparams, -, rfl⟩, hfilter⟩ :=
      Outcome.exists_of_forall₂_singleton hopens
    obtain ⟨⟨a, _⟩, params, rfl, rfl, hsecond⟩ := List.map_eq_cons_iff.mp hparams
    obtain ⟨⟨b, _⟩, params, rfl, rfl, hthird⟩ := List.map_eq_cons_iff.mp hsecond
    obtain rfl := List.map_eq_nil_iff.mp hthird
    have hreceiver : "func (c *" ++ podResource.wrapper coreClient ++ ") "
        = "func (c *wrappedCoreV1InterfacePodInterface) " := by decide
    have hresults : resultsText updatePodStatus.results
        = " (*example_com_api_v1.Pod, error)" := by decide
    have hcontext : (GoType.named "context" "Context").text = "context.Context" := by decide
    have hpod : (GoType.pointer (.named "example.com/api/v1" "Pod")).text
        = "*example_com_api_v1.Pod" := by decide
    rw [hreceiver, hresults] at hfilter
    use a, b
    rw [hfilter, List.singleton_inj]
    apply String.toList_inj.mp
    simp [paramsText, hcontext, hpod, updatePodStatus]

end ClientWrap
