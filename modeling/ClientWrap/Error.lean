import ClientWrap.Document.Fault
import ClientWrap.FileTree

/-!
# Errors

Everything that can go wrong between reading the settings and writing a file, by cause. The
wording of each cause is in its `message` function and nowhere else.
-/

namespace ClientWrap

/-- Why settings are refused. -/
inductive SettingsFault where
  | unreadable (path : Path) (fault : FileFault)
  | noTargets
  | badFileName (name : String)
  | badPackageName (name : String)
  | emptyFormatter
  | unnamedTarget
  | repeatedTarget (name : String)
  | noOutputs (target : String)
  | sharedOutput (path : Path)
  | unknownTarget (name : String)
  | unknownKind (name : String)
  deriving DecidableEq, Repr

/-- The wording of a settings fault. -/
def SettingsFault.message : SettingsFault → String
  | unreadable path fault => s!"Failed to read config file {path.text}: {fault.message}"
  | noTargets => "no [[target]] configured"
  | badFileName name => s!"file_name must be a plain .go file name, got '{name}'"
  | badPackageName name => s!"'{name}' is not a valid Go package name"
  | emptyFormatter => "formatter command is empty"
  | unnamedTarget => "target name is required"
  | repeatedTarget name => s!"target '{name}' is configured more than once"
  | noOutputs target => s!"target '{target}' has no [[target.output]]"
  | sharedOutput path => s!"output {path.text} is written by more than one target"
  | unknownTarget name => s!"unknown target '{name}'"
  | unknownKind name => s!"Invalid wrapper kind: {name}"

/-- Why a description of interfaces is refused. -/
inductive SchemaFault where
  | unreadable (path : Path) (fault : FileFault)
  | unqualified (type : GoType)
  | repeatedInterface (name : String)
  | declaredExternal (name : String)
  | embedsItself (name : String)
  | conflict (interface method : String)
  | unexported (interface method : String)
  | variadicNotLast (interface method : String)
  | variadicResult (interface method : String)
  deriving DecidableEq, Repr

/-- The wording of a schema fault. -/
def SchemaFault.message : SchemaFault → String
  | unreadable path fault => s!"Failed to read schema {path.text}: {fault.message}"
  | unqualified type => s!"'{type.spelling}' is not a package qualified interface name"
  | repeatedInterface name => s!"interface {name} is declared more than once"
  | declaredExternal name => s!"interface {name} is both declared and external"
  | embedsItself name => s!"interface {name} embeds itself"
  | conflict interface method => s!"{interface}: conflicting declarations of method {method}"
  | unexported interface method =>
    s!"{interface}: method '{method}' is not an exported Go identifier"
  | variadicNotLast interface method =>
    s!"{interface}.{method}: only the last parameter may be variadic"
  | variadicResult interface method => s!"{interface}.{method}: results cannot be variadic"

/-- The uses of an interface whose methods are not described. -/
inductive UnknownInterface where
  | asRoot (name : String)
  | embedded (name : String)
  | walked (name : String)
  deriving DecidableEq, Repr

/-- The wording of an unknown interface. -/
def UnknownInterface.message : UnknownInterface → String
  | asRoot name => s!"root {name} is not a declared interface"
  | embedded name => s!"embedded interface {name} is not declared"
  | walked name => name

/-- Why an accessor cannot be wrapped. -/
inductive AccessorFault where
  | clientParameters
  | resourceParameters (count : Nat)
  | variadicNamespace
  | undescribed (type : GoType)
  deriving DecidableEq, Repr

/-- The wording of an accessor fault. -/
def AccessorFault.message : AccessorFault → String
  | clientParameters => "client accessors cannot take parameters"
  | resourceParameters count =>
    s!"resource accessors take at most one parameter, found {count}"
  | variadicNamespace => "namespace parameter cannot be variadic"
  | undescribed type => s!"returns {type.spelling} whose methods are not described"

/-- A name that two wrappers would share. -/
inductive SharedName where
  | field (name : String)
  | wrapper (name : String)
  deriving DecidableEq, Repr

/-- The wording of a shared name. -/
def SharedName.message : SharedName → String
  | field name => s!"clientset field {name}"
  | wrapper name => name

/-- Everything that can go wrong. -/
inductive Error where
  | settings (fault : SettingsFault)
  | schema (fault : SchemaFault)
  | unknownInterface (which : UnknownInterface)
  | badType (expr : String) (fault : GoType.Fault)
  | unsupportedAccessor (interface method : String) (fault : AccessorFault)
  | duplicateWrapper (which : SharedName)
  | aliasClash (name first second : String)
  | createDirectory (path : Path) (fault : FileFault)
  | createFile (path : Path) (fault : FileFault)
  | formatter (message : String)
  | yaml (fault : DataFault)
  | toml (fault : DataFault)
  | json (fault : DataFault)
  deriving DecidableEq, Repr

/-- The wording of an error. Faults of texts in YAML and TOML have none, nor has a text that is no
JSON. -/
def Error.message? : Error → Option String
  | settings fault => s!"Configuration error: {fault.message}"
  | schema fault => s!"Schema error: {fault.message}"
  | unknownInterface which => s!"Unknown interface: {which.message}"
  | badType expr fault => DataFault.badTypeMessage expr fault
  | unsupportedAccessor interface method fault =>
    s!"Unsupported accessor {interface}.{method}: {fault.message}"
  | duplicateWrapper which => s!"Duplicate wrapper type '{which.message}' in generated output"
  | aliasClash name first second => s!"Import alias '{name}' is shared by {first} and {second}"
  | createDirectory path fault =>
    s!"Failed to create directory {path.text}: {fault.message}"
  | createFile path fault => s!"Failed to create file {path.text}: {fault.message}"
  | formatter message => s!"Formatter failed: {message}"
  | yaml _ | toml _ => none
  | json fault => fault.message?.map ("JSON parse error: " ++ ·)

end ClientWrap
