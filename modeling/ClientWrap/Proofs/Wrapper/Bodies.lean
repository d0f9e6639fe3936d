import ClientWrap.Proofs.Wrapper.Declarations
import ClientWrap.Proofs.Wrapper.Readable

/-!
# What the functions of a file use

The calls and struct literals in the bodies of the functions that make wrappers and of the methods
that are no operations, as a reader of the file finds them.
-/

namespace ClientWrap

open ClientWrap.Code ClientWrap.Text Token

/-- The tokens of names, an entry for each. -/
def nameEntries (names : List String) : List (List Token) :=
  names.map fun name => [word name]

/-- Names as arguments are read as an entry each. -/
theorem tokensEach_names (names : List String) :
  Expr.tokensEach (names.map .name) = nameEntries names
  := by
  rw [Expr.tokensEach_eq_map, List.map_map]
  rfl

/-- Names use nothing. -/
theorem usesAll_names (names : List String) :
  Expr.usesAll (names.map .name) = []
  := by
  rw [Expr.usesAll_eq_flatMap, List.flatMap_map, List.flatMap_eq_nil_iff]
  intro name _
  rfl

/-- A method that is passed through uses the wrapped method only. -/
theorem Method.IsValid.uses_passThrough {m : Method} (h : m.IsValid) (receiver : String) :
  (m.passThrough receiver).body.flatMap Stmt.uses = [.call m.innerName m.forwarded]
  := by
  change [Stmt.step m.passOn].flatMap Stmt.uses = _
  rw [List.flatMap_singleton, Stmt.uses, h.uses_passOn]

namespace Resource

/-- The names that pass the namespace on. -/
def namespaceNames (r : Resource) : List String :=
  r.namespaceParam.map (·.1)

/-- The namespace of a resource is passed on by its name. -/
theorem namespaceArg_eq (r : Resource) :
  r.namespaceArg = r.namespaceNames.map .name
  := by
  rw [namespaceArg, namespaceNames, List.map_map]
  rfl

/-- The access to what a resource wraps calls its accessor there with the namespace. -/
theorem uses_innerAccess (r : Resource) :
  r.innerAccess.uses = [.call r.accessor.innerName (nameEntries r.namespaceNames)]
  := by
  rw [innerAccess, Method.innerCall, Expr.uses, namespaceArg_eq, tokensEach_names, usesAll_names]
  rfl

/-- The tokens of the call of the wrapped accessor. -/
def accessTokens (r : Resource) : List Token :=
  word r.accessor.innerName :: mark '(' :: (commaTokens (nameEntries r.namespaceNames) ++ [mark ')'])

/-- The access to what a resource wraps is read as its tokens. -/
theorem tokens_innerAccess (r : Resource) :
  r.innerAccess.tokens = r.accessTokens
  := by
  rw [innerAccess, Method.innerCall, Expr.tokens, namespaceArg_eq, tokensEach_names]
  rfl

end Resource

namespace Instrumentation

/-- The accessor of a client uses nothing. -/
theorem uses_clientAccessor (c : Client) :
  (clientAccessor c).body.flatMap Stmt.uses = []
  := rfl

/-- The function that makes a wrapper gives a literal with its parameters. -/
theorem uses_constructorFunc (name wrapper : String) (type : GoType) (state : List Carried) :
  (constructorFunc name wrapper type state).body.flatMap Stmt.uses
    = [.fresh wrapper (nameEntries ((constructorFunc name wrapper type state).params.map (·.1)))]
  := by
  have hargs : .name "inner" :: stateArgs state
      = ((constructorFunc name wrapper type state).params.map (·.1)).map Expr.name := by
    simp [constructorFunc, stateArgs, stateParams]
  change [Stmt.step (.give [.fresh wrapper (.name "inner" :: stateArgs state)])].flatMap Stmt.uses = _
  rw [List.flatMap_singleton, Stmt.uses, Step.uses, Expr.usesAll, Expr.usesAll, Expr.uses, hargs,
    tokensEach_names, usesAll_names]
  rfl

/-- The names of the further parameters of `Wrap` and `NewForConfig`. -/
def clientsetNames (ins : Instrumentation) : List String :=
  ins.clientsetParams.map (·.1)

/-- The further arguments of `Wrap` are the names of its further parameters. -/
theorem clientsetArgs_eq (ins : Instrumentation) :
  ins.clientsetArgs = ins.clientsetNames.map .name
  := by
  rw [clientsetArgs, clientsetNames, List.map_map]
  rfl

/-- The tokens of the call of the accessor of a client. -/
def clientAccess (c : Client) : List Token :=
  [word ("inner." ++ c.name), mark '(', mark ')']

/-- The value of the field that holds the wrapper of a client. -/
def clientTokens (ins : Instrumentation) (c : Client) : List Token :=
  word c.constructor :: mark '(' :: (commaTokens (clientAccess c :: nameEntries ins.clientsetNames)
    ++ [mark ')'])

/-- The function that wraps a clientset gives a literal with a key for each client. -/
theorem uses_wrapFunc (ins : Instrumentation) (cs : Clientset) :
  (ins.wrapFunc cs).body.flatMap Stmt.uses
    = .fresh "clientset" ([word "inner", mark ':', word "inner"] ::
        cs.clients.map fun c => word c.field :: mark ':' :: ins.clientTokens c) ::
      cs.clients.flatMap fun c =>
        [.call c.constructor (clientAccess c :: nameEntries ins.clientsetNames),
          .call ("inner." ++ c.name) []]
  := by
  have hclient : ∀ c : Client, (Expr.call (.name c.constructor)
      (.call (.select (.name "inner") c.name) [] :: ins.clientsetArgs)).tokens
      = ins.clientTokens c := by
    intro c
    rw [Expr.tokens, Expr.tokensEach, clientsetArgs_eq, tokensEach_names]
    rfl
  have hclientUses : ∀ c : Client, (Expr.call (.name c.constructor)
      (.call (.select (.name "inner") c.name) [] :: ins.clientsetArgs)).uses
      = [.call c.constructor (clientAccess c :: nameEntries ins.clientsetNames),
          .call ("inner." ++ c.name) []] := by
    intro c
    rw [Expr.uses, Expr.tokensEach, Expr.usesAll, clientsetArgs_eq, tokensEach_names, usesAll_names]
    rfl
  change [Stmt.giveFresh "clientset" _].flatMap Stmt.uses = _
  rw [List.flatMap_singleton, Stmt.uses, List.map_cons, List.map_map, List.flatMap_cons,
    List.flatMap_map]
  simp only [Function.comp_def, hclient, hclientUses]
  rfl

/-- `NewForConfig` calls that of the root package and then `Wrap`. -/
theorem uses_newForConfigFunc (ins : Instrumentation) (restPackage : String) (cs : Clientset) :
  (ins.newForConfigFunc restPackage cs).body.flatMap Stmt.uses
    = [.call (Naming.packageAlias cs.package ++ "." ++ "NewForConfig") [[word "c"]],
      .call "Wrap" (nameEntries ("inner" :: ins.clientsetNames))]
  := by
  have hargs : .name "inner" :: ins.clientsetArgs
      = ("inner" :: ins.clientsetNames).map Expr.name := by
    rw [clientsetArgs_eq, List.map_cons]
  have hwrap : (Expr.call (.name "Wrap") (.name "inner" :: ins.clientsetArgs)).uses
      = [.call "Wrap" (nameEntries ("inner" :: ins.clientsetNames))] := by
    rw [Expr.uses, hargs, tokensEach_names, usesAll_names]
    rfl
  simp only [newForConfigFunc, List.flatMap_cons, List.flatMap_nil, Stmt.uses, Step.uses,
    Expr.usesAll, hwrap]
  rfl

end Instrumentation

namespace Metrics

/-- The name of the function that makes the recorder of a resource. -/
def makerName (package : String) (r : Resource) : String :=
  Naming.packageAlias package ++ "." ++
    if r.namespaceArg.isEmpty then "ClusteredClientQueryRecorder" else "NamespacedClientQueryRecorder"

/-- A recorder is made by one call with the metrics, the namespace, the kind and the type of the
client. -/
theorem uses_makeRecorder (package : String) (r : Resource) :
  (makeRecorder package r).uses
    = [.call (makerName package r) ([word "c.metrics"] :: (nameEntries r.namespaceNames
      ++ [[literal r.kind], [word "c.clientType"]]))]
  := by
  have hargs : Expr.usesAll ([.select (.name "c") "metrics"] ++ r.namespaceArg
      ++ [.string r.kind, .select (.name "c") "clientType"]) = [] := by
    rw [Expr.usesAll_eq_flatMap, List.flatMap_append, List.flatMap_append,
      ← Expr.usesAll_eq_flatMap r.namespaceArg, r.namespaceArg_eq, usesAll_names]
    rfl
  rw [makeRecorder, makerName, Expr.uses, hargs, Expr.tokensEach_eq_map, List.map_append,
    List.map_append, ← Expr.tokensEach_eq_map r.namespaceArg, r.namespaceArg_eq, tokensEach_names]
  rfl

/-- The accessor of a counted resource makes a recorder and calls the constructor with the access to
the resource and this recorder. -/
theorem uses_accessorBody (package : String) (c : Client) (r : Resource) :
  (accessorBody package c r).flatMap Stmt.uses
    = [.call (makerName package r) ([word "c.metrics"] :: (nameEntries r.namespaceNames
        ++ [[literal r.kind], [word "c.clientType"]])),
      .call (r.constructor c) [r.accessTokens, [word "recorder"]],
      .call r.accessor.innerName (nameEntries r.namespaceNames)]
  := by
  have hgive : (Expr.call (.name (r.constructor c)) [r.innerAccess, .name "recorder"]).uses
      = [.call (r.constructor c) [r.accessTokens, [word "recorder"]],
        .call r.accessor.innerName (nameEntries r.namespaceNames)] := by
    rw [Expr.uses, Expr.tokensEach, Expr.usesAll, r.tokens_innerAccess, r.uses_innerAccess]
    rfl
  simp only [accessorBody, List.flatMap_cons, List.flatMap_nil, Stmt.uses, Step.uses, Expr.usesAll,
    uses_makeRecorder, hgive]
  rfl

end Metrics

namespace Traces

/-- The accessor of a traced resource calls the constructor with the access to the resource. -/
theorem uses_accessorBody (c : Client) (r : Resource) :
  (accessorBody c r).flatMap Stmt.uses
    = [.call (r.constructor c) [r.accessTokens],
      .call r.accessor.innerName (nameEntries r.namespaceNames)]
  := by
  change [Stmt.step (.give [.call (.name (r.constructor c)) [r.innerAccess]])].flatMap Stmt.uses = _
  rw [List.flatMap_singleton, Stmt.uses, Step.uses, Expr.usesAll, Expr.usesAll, Expr.uses,
    Expr.tokensEach, Expr.tokensEach, Expr.usesAll, Expr.usesAll, r.tokens_innerAccess,
    r.uses_innerAccess]
  rfl

end Traces

/-! ### The file -/

/-- Elements that give nothing can be left out. -/
theorem flatMap_filter_of_nil {α β : Type} {f : α → List β} {p : α → Bool} {as : List α}
    (h : ∀ a ∈ as.filter (!p ·), f a = []) :
  (as.filter p).flatMap f = as.flatMap f
  := by
  induction as with
  | nil => rfl
  | cons a as ih =>
      by_cases hp : p a
      · rw [List.filter_cons_of_neg (by simp [hp])] at h
        rw [List.filter_cons_of_pos hp, List.flatMap_cons, List.flatMap_cons, ih h]
      · rw [List.filter_cons_of_pos (by simp [hp]), List.forall_mem_cons] at h
        rw [List.filter_cons_of_neg hp, List.flatMap_cons, h.1, ih h.2, List.nil_append]

section

variable {ins : Instrumentation} {o : RenderOptions} {cs : Clientset} {file : File}

/-- The parts of a rendered file are readable. -/
theorem readable_of_render (hins : ins.Readable) (hcs : cs.Proper) (h : ins.render o cs = .ok file) :
  ∀ item ∈ file.items, item.Readable
  := by
  rw [items_of_render h]
  apply hins.items hcs

/-- The functions of a file without a receiver are the constructors and those for callers. -/
theorem outerFuncs_of_render (h : ins.render o cs = .ok file) :
  file.funcs.filter (!·.receiver.isSome) = ins.outerFuncs o cs
  := by
  rw [File.funcs, items_of_render h, Instrumentation.filter_funcs_items]

/-- The methods of the blocks are functions of the file. -/
theorem mem_funcs_of_mem_blocks (h : ins.render o cs = .ok file) {b : Block}
    (hb : b ∈ ins.blocks cs) {f : Func} (hf : f ∈ b.funcs) :
  f ∈ file.funcs
  := by
  have hmethod : f ∈ file.methods := by
    rw [methods_of_render h]
    apply List.mem_flatMap.mpr ⟨b, hb, hf⟩
  rw [← File.filter_funcs] at hmethod
  apply List.mem_of_mem_filter hmethod

/-- The methods of a wrapper with the lines of their bodies are found by the receiver. -/
theorem braced_of_render {s : Schema} {ex : Exclusions} (hins : ins.Printable)
    (hproper : cs.Proper) (hcs : s.IsClientset ex cs) (hnames : cs.names.Nodup)
    (h : ins.render o cs = .ok file) {b : Block} (hb : b ∈ ins.blocks cs) :
  braced ("func (c *" ++ b.receiver ++ ") ") (Text.lines file.body)
    = b.funcs.map fun m => (m.header, m.bodyLines)
  := by
  have hwraps := ins.wraps_iff.mpr ⟨b, hb, rfl, rfl⟩
  rw [(printable_of_render hins hproper h).braced_receiver
      (Instrumentation.not_mem_of_wraps hproper hwraps) (not_mem_receiver_of_render hproper hcs h),
    methods_of_render h,
    Instrumentation.filter_receiver (Instrumentation.nodup_receivers hnames)
      (Instrumentation.receiver_of_mem_blocks hcs) hb]

end

end ClientWrap
