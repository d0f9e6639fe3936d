import ClientWrap.Document.Json
import ClientWrap.Document.Toml
import ClientWrap.Settings.Basic

/-!
# Reading settings

Settings are a document in which everything but the kind and the directory of an output may be
left out.
-/

namespace ClientWrap

/-- Reads a path. -/
def Path.read (d : Document) : Except DataFault Path :=
  (d.readTextAs "path string").map Path.mk

/-- Reads the exclusions of a walk onto others. -/
def Exclusions.reader : RecordReader Exclusions where
  wanted := "struct WalkerConf"
  fields := [
    ⟨"clientset_exclusions", false, fun e d => do
      return { e with clientset := ← d.readList Document.readText }⟩,
    ⟨"client_exclusions", false, fun e d => do
      return { e with client := ← d.readList Document.readText }⟩]

/-- How the package of the metrics is read. -/
def metricsReader : RecordReader String where
  wanted := "struct MetricsConf"
  fields := [⟨"package", false, fun _ d => d.readText⟩]

/-- How the packages of the traces are read. -/
def TracingSettings.reader : RecordReader TracingSettings where
  wanted := "struct TracingConf"
  fields := [
    ⟨"package", false, fun t d => do return { t with package := ← d.readText }⟩,
    ⟨"attribute_package", false, fun t d => do
      return { t with attributePackage := ← d.readText }⟩,
    ⟨"codes_package", false, fun t d => do return { t with codesPackage := ← d.readText }⟩,
    ⟨"span_prefix", false, fun t d => do return { t with spanLead := ← d.readText }⟩]

/-- How an output is read. -/
def OutputSettings.reader (format : Format) : RecordReader OutputSettings where
  wanted := "struct OutputConf"
  fields := [
    ⟨"kind", true, fun o d => do
      let known := [WrapperKind.metrics, .traces].map fun k => (k.name, k)
      return { o with kind := ← d.readVariant format known }⟩,
    ⟨"dir", true, fun o d => do return { o with dir := ← Path.read d }⟩,
    ⟨"component", false, fun o d => do
      return { o with component := ← d.readOptional Document.readText }⟩,
    ⟨"package", false, fun o d => do
      return { o with package := ← d.readOptional Document.readText }⟩]

/-- Reads an output. -/
def OutputSettings.read (format : Format) : Document → Except DataFault OutputSettings :=
  (OutputSettings.reader format).read format ⟨.metrics, ⟨""⟩, none, none, none⟩

/-- How a target is read. -/
def TargetSettings.reader (format : Format) : RecordReader TargetSettings where
  wanted := "struct TargetConf"
  fields := [
    ⟨"name", false, fun t d => do return { t with name := ← d.readText }⟩,
    ⟨"schema", false, fun t d => do return { t with schema := ← Path.read d }⟩,
    ⟨"new_for_config", false, fun t d => do return { t with newForConfig := ← d.readBool }⟩,
    ⟨"output", false, fun t d => do
      return { t with outputs := ← d.readList (OutputSettings.read format) }⟩]

/-- Reads a target. -/
def TargetSettings.read (format : Format) : Document → Except DataFault TargetSettings :=
  (TargetSettings.reader format).read format .default

namespace Settings

/-- How settings are read. -/
def reader (format : Format) : RecordReader Settings where
  wanted := "struct GeneratorConf"
  fields := [
    ⟨"file_name", false, fun s d => do return { s with fileName := ← d.readText }⟩,
    ⟨"package", false, fun s d => do return { s with package := ← d.readText }⟩,
    ⟨"rest_package", false, fun s d => do return { s with restPackage := ← d.readText }⟩,
    ⟨"formatter", false, fun s d => do
      return { s with formatter := ← d.readOptional (Document.readList Document.readText) }⟩,
    ⟨"metrics", false, fun s d => do
      return { s with metricsPackage := ← metricsReader.read format default.metricsPackage d }⟩,
    ⟨"tracing", false, fun s d => do
      return { s with tracing := ← TracingSettings.reader.read format .default d }⟩,
    ⟨"walker", false, fun s d => do
      return { s with exclusions := ← Exclusions.reader.read format .default d }⟩,
    ⟨"target", false, fun s d => do
      return { s with targets := ← d.readList (TargetSettings.read format) }⟩]

/-- Reads settings. -/
def read (format : Format) : Document → Except DataFault Settings :=
  (reader format).read format .default

/-- The settings that a text in JSON describes. -/
def ofJson (text : String) : Except DataFault Settings :=
  Json.readWith (read .json) text

/-- The settings that a text in TOML describes. -/
def ofToml (text : String) : Except DataFault Settings :=
  match Toml.parse? text with
  | none => .error .malformed
  | some d => read .toml d

end Settings

end ClientWrap
