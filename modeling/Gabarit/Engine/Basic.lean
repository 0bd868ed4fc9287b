import Gabarit.Engine.Cache
import Gabarit.Filter.Standard
import Gabarit.Render.Run
import Gabarit.Template.Compile

/-!
# Engines

* `Engine`: a configuration with filters;
* `Engine.program`: the program of a template, from its artifact if this can be used;
* `Engine.compile`, `Engine.compileEach`: compiling anew;
* `Engine.render`, `Engine.renderText`: the text of a template with data.
-/

namespace Gabarit

/-- What compiles and renders templates. -/
structure Engine where
  config : Config := {}
  filters : Registry := .standard

namespace Engine

/-- How the engine's programs are rendered. -/
def renderer (e : Engine) : Renderer :=
  { filters := e.filters, charset := e.config.charset, quotes := e.config.quotes }

/-- The filter calls of a node. -/
def callsOf : Node → List FilterCall
  | .echo _ calls _ => calls
  | _ => []

/-- The filter calls of a program fit the engine's filters. -/
def checkCalls (e : Engine) (p : Program) : Except Failure Unit :=
  p.nodes.toList.forM fun node => (callsOf node).forM e.filters.check

/-- The program of an artifact that fits the engine's filters. -/
def loadFitting (e : Engine) (d : Disk) (cache : Path) : Except Failure Program := do
  let p ← loadArtifact d cache
  e.checkCalls p
  return p

/-- The failure tells that an artifact has to be made again. -/
def callsForCompiling : Failure → Bool
  | .error (.badArtifact ..) | .error (.compile _) => true
  | _ => false

/-- Compiles a source and stores its artifact. -/
def compileAnew (e : Engine) (source cache : Path) : Work Program := do
  let text ← Work.ask (sourceText · e.config.charset source)
  let p ← Work.ofExcept (Gabarit.compile e.filters text source.text)
  storeArtifact cache p
  return p

/-- The program of a template: that of its artifact, unless this is stale or cannot be used. -/
def program (e : Engine) (name : String) : Work Program := do
  let (source, cache) ← Work.ask (e.config.resolve · name)
  if ← Work.ask (needsCompiling · source cache) then e.compileAnew source cache
  else
    match e.loadFitting (← get) cache with
    | .ok p => return p
    | .error f => if callsForCompiling f then e.compileAnew source cache else throw f

/-- Compiles a template, and tells the path of its artifact. -/
def compile (e : Engine) (name : String) : Work Path := do
  let (source, cache) ← Work.ask (e.config.resolve · name)
  let _ ← e.compileAnew source cache
  return cache

/-- Compiles all templates. -/
def compileEach (e : Engine) : Work (List Path) := do
  let names ← Work.ask fun d => (e.config.templates d).mapError .fault
  names.mapM e.compile

/-- The text of a template with data. What is left of the one-shot iterators is not told: whoever renders again
says with what is left by then. -/
def render (e : Engine) (name : String) (data : Value) (cursors : Cursors) : Work Rendered := do
  let p ← e.program name
  Work.ofExcept (e.renderer.render p data cursors)

/-- The text of a source with data. -/
def renderText (e : Engine) (source : String) (data : Value) (cursors : Cursors) :
    Except Failure Rendered := do
  e.renderer.render (← Gabarit.compile e.filters source) data cursors

end Engine

end Gabarit
