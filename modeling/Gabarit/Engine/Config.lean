import Gabarit.Charset.Basic
import Gabarit.Disk.Basic
import Gabarit.Text.Markup
import Gabarit.Value.Text
import Gabarit.Yaml.Load

/-!
# Configurations

* `Config`: where templates and their artifacts are kept, and how templates are rendered;
* `Config.ofValue`: a configuration from settings, or what is wrong with these;
* `Config.anchoredAt`: a configuration with its directories seen from another one;
* `Config.load`: the configuration of a file;
* `nearestConfig`: the nearest file of settings.
-/

namespace Gabarit

/-- The settings of an engine. -/
structure Config where
  templateDir : Path := .ofText "views"
  cacheDir : Path := .ofText "views/cache"
  extension : String := ".html"
  cacheExtension : String := ".json"
  defaultTemplate : String := "base"
  charset : String := "UTF-8"
  quotes : QuotePolicy := .all

namespace Config

/-- The name of a quote policy. -/
def quotesName : QuotePolicy → String
  | .all => "all"
  | .double => "double"
  | .none => "none"

/-- The settings by their names, as texts. -/
def settings (c : Config) : List (String × String) :=
  [("template_dir", c.templateDir.text), ("cache_dir", c.cacheDir.text), ("extension", c.extension),
    ("cache_extension", c.cacheExtension), ("default_template", c.defaultTemplate),
    ("charset", c.charset), ("quotes", quotesName c.quotes)]

/-! ## Reading settings -/

/-- A text, which can be given as bytes. -/
def textOf : Value → Except SettingFault String
  | .str s => .ok s
  | .broken _ => .error .badText
  | .bytes bs | .bytearray bs =>
    match Utf8.decode bs with
    | .ok cs => .ok (String.ofList cs)
    | .error _ => .error .badText
  | _ => .error .notText

/-- A path. -/
def pathOf (v : Value) : Except SettingFault Path :=
  match textOf v with
  | .ok s => .ok (.ofText s)
  | .error _ => .error .notPath

/-- An extension, which starts with a dot unless it is empty. -/
def extensionOf (v : Value) : Except SettingFault String :=
  (textOf v).map fun s => if s = "" ∨ s.toList.head? = some '.' then s else "." ++ s

/-- The name of a charset that is known. -/
def charsetOf (v : Value) : Except SettingFault String := do
  let name ← textOf v
  if name.toList.contains '\x00' then throw .nulInCharset
  if (Charset.ofName? name).isSome then return name else throw (.unknownCharset name)

/-- A quote policy. -/
def quotesOf : Value → Except SettingFault QuotePolicy
  | .str "all" => .ok .all
  | .str "double" => .ok .double
  | .str "none" => .ok .none
  | _ => .error .notChoice

/-- The configuration with one setting more. -/
def set (c : Config) (key : String) (v : Value) : Except SettingFault Config :=
  match key with
  | "template_dir" => (pathOf v).map fun p => { c with templateDir := p }
  | "cache_dir" => (pathOf v).map fun p => { c with cacheDir := p }
  | "extension" => (extensionOf v).map fun s => { c with extension := s }
  | "cache_extension" => (extensionOf v).map fun s => { c with cacheExtension := s }
  | "default_template" => (textOf v).map fun s => { c with defaultTemplate := s }
  | "charset" => (charsetOf v).map fun s => { c with charset := s }
  | "quotes" => (quotesOf v).map fun q => { c with quotes := q }
  | _ => .error .unknownKey

/-- The name of a key that is no text, for a message. -/
def keyText (v : Value) : String :=
  match v with
  | .bool b => if b then "1" else "0"
  | v => match v.written with
    | .ok s => s
    | .error _ => ""

/-- The configuration after some settings, and what is wrong with these. -/
def setAll (c : Config) : List (Value × Value) → Config × List SettingProblem
  | [] => (c, [])
  | (.str key, v) :: rest =>
    match c.set key v with
    | .ok c => setAll c rest
    | .error cause => (setAll c rest).map id (⟨some key, cause⟩ :: ·)
  | (key, _) :: rest => (setAll c rest).map id (⟨some (keyText key), .keyType⟩ :: ·)

/-- The problem comes before another one, by its place. -/
def comesBefore (a b : SettingProblem) : Bool := a.place.getD "" ≤ b.place.getD ""

/-- The configuration of settings. All that is wrong with them is told, in the order of the keys. -/
def ofValue (v : Value) : Except Fault Config :=
  match v with
  | .dict entries | .defaulting entries _ =>
    match ({} : Config).setAll entries with
    | (c, []) => .ok c
    | (_, problems) => .error (.settings (problems.mergeSort comesBefore))
  | _ => .error (.settings [⟨none, .notMapping⟩])

/-! ## Directories -/

/-- The home directories of users; the user without a name is the current one. -/
abbrev Homes := List (String × Path)

/-- The path in which a tilde at the start stands for a home directory. -/
def expandHome (homes : Homes) (p : Path) : Except Fault Path :=
  match p.anchor, p.parts with
  | .relative, first :: rest =>
    match first.toList with
    | '~' :: user =>
      match homes.lookup (String.ofList user) with
      | some home => .ok (home.join ⟨.relative, rest⟩)
      | none => .error .noHome
    | _ => .ok p
  | _, _ => .ok p

/-- The configuration with its directories seen from another one. -/
def anchoredAt (homes : Homes) (root : Path) (c : Config) : Except Fault Config := do
  let templateDir ← expandHome homes c.templateDir
  let cacheDir ← expandHome homes c.cacheDir
  return { c with templateDir := root.join templateDir, cacheDir := root.join cacheDir }

/-- The configuration of the text of a file; an empty document is an empty mapping. -/
def ofText (s : String) : Except Fault Config := do
  let v ← (Yaml.load s).mapError .document
  if !v.truthy then ofValue (.dict [])
  else if v.isMapping then ofValue v
  else throw .noSettings

/-- The configuration of a file, with its directories seen from there. Without the file it is the usual
one. -/
def load (homes : Homes) (d : Disk) (p : Path) : Except Fault Config := do
  if !(← (d.exists? p).mapError .file) then return {}
  let bytes ← (d.read p).mapError .file
  let cs ← Charset.decodeFile (.utf8 false) bytes
  (← ofText (String.ofList cs)).anchoredAt homes p.parent

end Config

/-- The names of files of settings. -/
def configNames : List String := ["stencil.yaml", "stencil.yml"]

/-- The nearest file of settings at or above a directory. -/
def nearestConfig (d : Disk) (start : Path) : Except Fault (Option Path) := do
  let place ← (d.resolve start).mapError .file
  let candidates := (Path.ofPlace place).ancestors.flatMap fun directory =>
    configNames.map directory.child
  candidates.findM? fun p => (d.exists? p).mapError .file

end Gabarit
