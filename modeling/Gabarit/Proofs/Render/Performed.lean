import Gabarit.Proofs.Block.Written
import Gabarit.Proofs.Engine.Steps
import Gabarit.Proofs.Render.Traced

/-!
# Programs do not go wrong on filters

The filter calls of a template are checked once, when it is compiled. The calls that are performed for its
program are other ones, with the values that are piped; they fit all the same.

* `Performed.Fits`: a call fits its filter, and passes what is written in a source around the piped value;
* `Performed.fits_of_compile`: performed calls of a compiled program fit;
* `Renderer.GoesRight`: an execution whose filter calls fit, and that fails with an error in a template only
  when a filter does;
* **`compile_goes_right`**: all executions of a compiled program do, and of what is read from its artifact.
-/

namespace Gabarit

/-- The call fits its filter, which is the registered one, and passes the literals of a stage of the source,
as they are stored, with the piped value in its slot. -/
structure Performed.Fits (d : Performed) (filters : Registry) (source : String) (store : Scalar → Scalar) :
    Prop where
  registered : filters.find? d.call.name = some d.filter
  bound : ∀ s, d.filter.signature = some s → s.bind d.args.length = .ok ()
  slot : 0 ≤ d.call.slot ∧ d.call.slot ≤ d.call.args.length
  piped : d.args[d.call.slot.toNat]? = some d.piped
  written : ∃ stage ∈ filterStages source, ∃ before after : List Scalar,
    FilterCall.Written stage d.call.name before after ∧ d.call.slot = before.length ∧
      d.args = (before.map fun v => (store v).toValue) ++ d.piped :: after.map fun v => (store v).toValue

theorem Performed.fits_of_compile {filters : Registry} {source : String} {name : Option String}
    {p : Program} (h : compile filters source name = .ok p) (store : Scalar → Scalar) {c : FilterCall}
    (hc : c ∈ p.calls) : ∃ f, filters.get c.name = .ok f ∧ ∀ v args,
      insertAt c.slot v ((c.args.map store).map Scalar.toValue) = .ok args →
        Fits ⟨{ c with args := c.args.map store }, f, v, args⟩ filters source store := by
  obtain ⟨f, hfind, hbind⟩ := Registry.check_eq_ok (compile_checks h c hc)
  obtain ⟨stage, hstage, before, after, hwritten, hargs, hslot⟩ := compile_written h c hc
  refine ⟨f, by rw [Registry.get, hfind], fun v args hinsert => ?_⟩
  have hpassed : args =
      (before.map fun v => (store v).toValue) ++ v :: after.map fun v => (store v).toValue := by
    rw [hargs, List.map_map, List.map_append,
      insertAt_append (by rw [hslot, List.length_map]) v] at hinsert
    exact (Except.ok.inj hinsert).symm
  have hlength : (c.args.map store).length = before.length + after.length := by
    rw [List.length_map, hargs, List.length_append]
  constructor
  case registered => exact hfind
  case bound =>
    intro s hs
    dsimp only
    rw [hpassed, List.length_append, List.length_cons, List.length_map, List.length_map]
    have hbound := (hbind s hs).2
    rwa [hargs, List.length_append, Nat.add_assoc] at hbound
  case slot =>
    dsimp only
    omega
  case piped =>
    dsimp only
    rw [hpassed, hslot, Int.toNat_natCast, List.getElem?_append_right (by simp)]
    simp
  case written => exact ⟨stage, hstage, before, after, hwritten, hslot, hpassed⟩

/-- The execution of a program goes right on filters: the calls that are performed for it fit, and if it
fails with an error in a template, the filter of one of them fails so. -/
structure Renderer.GoesRight (r : Renderer) (source : String) (store : Scalar → Scalar) (p : Program)
    (c : Context) (cursors : Cursors) : Prop where
  traced : (r.executeTraced p c cursors).1 = r.execute p c cursors
  fits : ∀ d ∈ (r.executeTraced p c cursors).2, d.Fits r.filters source store
  raised : ∀ e, (r.execute p c cursors).1 = .error (.error (.compile e)) →
    ∃ d ∈ (r.executeTraced p c cursors).2, d.Raises (.error (.compile e))

theorem Renderer.goesRight_of_calls {r : Renderer} {source : String} {name : Option String} {p q : Program}
    (h : compile r.filters source name = .ok p) {store : Scalar → Scalar}
    (hq : q.calls = p.calls.map fun c => { c with args := c.args.map store }) (c : Context)
    (cursors : Cursors) : r.GoesRight source store q c cursors := by
  have hcalls : ∀ node ∈ q.nodes,
      r.Calls (Performed.Fits · r.filters source store) (Engine.callsOf node) := by
    intro node hnode call hcall
    have hmem : call ∈ q.calls := List.mem_flatMap.mpr ⟨node, Array.mem_toList_iff.mpr hnode, hcall⟩
    rw [hq] at hmem
    obtain ⟨c, hc, rfl⟩ := List.mem_map.mp hmem
    exact Performed.fits_of_compile h store hc
  obtain ⟨htraced, hfits, hraised⟩ := executeTraced_follows hcalls c cursors
  exact ⟨htraced, hfits, hraised⟩

/-- **Compiled programs do not go wrong on filters.** With the filters that a source was compiled with, all
executions of its program perform calls that fit, and fail with no error in a template but those that
filters raise themselves. So do those of the program that is read from its artifact, where null is passed
for floating-point numbers that are not finite. -/
theorem compile_goes_right {r : Renderer} {source : String} {name : Option String} {p : Program}
    (h : compile r.filters source name = .ok p) (c : Context) (cursors : Cursors) :
    r.GoesRight source id p c cursors ∧
      ∀ text q, p.encode = .ok text → Program.decode (Utf8.encode text.toList) = .ok q →
        r.GoesRight source Scalar.stored q c cursors := by
  refine ⟨Renderer.goesRight_of_calls h ?_ c cursors, fun text q htext hq => ?_⟩
  · simp
  · obtain hrefused | hread := Program.decode_encode_keeps htext
    · rw [hrefused] at hq
      cases hq
    · rw [hread] at hq
      cases hq
      exact Renderer.goesRight_of_calls h p.calls_stored c cursors

/-- A fallback is passed before what is piped. -/
theorem compile_goes_right_default : ∃ p, compile .standard "\x7b\x7b x|default('a') \x7d\x7d" = .ok p ∧
    ∃ d ∈ (({ filters := .standard } : Renderer).executeTraced p ⟨.dict [(.str "x", .none)], []⟩ []).2,
      d.args = [.str "a", .none] ∧ d.Fits .standard "\x7b\x7b x|default('a') \x7d\x7d" id := by
  have hcompile : compile .standard "\x7b\x7b x|default('a') \x7d\x7d" =
      .ok ⟨#[.echo ⟨"x", [.name "x"]⟩ [⟨"default", [.text "a"], 1⟩] false], layoutVersion⟩ := by
    decide +kernel
  have hright := compile_goes_right (r := { filters := .standard }) hcompile
    ⟨.dict [(.str "x", .none)], []⟩ []
  exact ⟨_, hcompile, _, List.mem_cons_self, rfl, hright.1.fits _ List.mem_cons_self⟩

/-- A template with an argument that is not finite. -/
def infiniteTemplate : String := "\x7b\x7b x|default(1e999) \x7d\x7d"

/-- The program of this template. -/
def infiniteProgram : Program :=
  ⟨#[.echo ⟨"x", [.name "x"]⟩ [⟨"default", [.float (.infinity false)], 1⟩] false], layoutVersion⟩

/-- What is read from the artifact of this template passes null, which is not written there. -/
theorem exists_decoded_not_goesRight : ∃ text q, compile .standard infiniteTemplate = .ok infiniteProgram ∧
    infiniteProgram.encode = .ok text ∧ Program.decode (Utf8.encode text.toList) = .ok q ∧
      ¬({ filters := .standard } : Renderer).GoesRight infiniteTemplate id q
        ⟨.dict [(.str "x", .none)], []⟩ [] := by
  have hencode : infiniteProgram.encode = .ok ("\x7b\"nodes\":[\x7b\"kind\":\"echo\",\"path\":\x7b" ++
      "\"expr\":\"x\",\"parts\":[\"x\"]\x7d,\"filters\":[\x7b\"name\":\"default\",\"args\":[null]," ++
      "\"slot\":1\x7d],\"escape\":false\x7d],\"version\":1\x7d") := by
    decide +kernel
  have hdecode := (Program.decode_encode_short hencode).trans (if_pos (by decide +kernel))
  have hstored : infiniteProgram.stored =
      ⟨#[.echo ⟨"x", [.name "x"]⟩ [⟨"default", [.null], 1⟩] false], layoutVersion⟩ := by
    decide +kernel
  rw [hstored] at hdecode
  refine ⟨_, _, by decide +kernel, hencode, hdecode, fun h => ?_⟩
  obtain ⟨stage, hstage, before, after, hwritten, -, hargs⟩ := (h.fits _ List.mem_cons_self).written
  have hstages : filterStages infiniteTemplate = ["default(1e999)".toList] := by decide +kernel
  rw [hstages, List.mem_singleton] at hstage
  subst hstage
  have hexpression : FilterCall.expression? "default(1e999)".toList =
      some (.call (.name "default") [.scalar (.float (.infinity false))] false) := by
    with_unfolding_all rfl
  cases hwritten with
  | bare he =>
    rw [hexpression] at he
    cases he
  | last he _ hbefore =>
    rw [hexpression] at he
    cases he
    obtain ⟨v, vs, hv, -, rfl⟩ := List.forall₂_cons_left_iff.mp hbefore
    cases hv
    cases (List.cons.inj hargs).1
  | placed he hnone hbefore hafter =>
    rename_i es _
    rw [hexpression] at he
    obtain _ | ⟨e, _ | ⟨e', es⟩⟩ := es <;> cases he

end Gabarit
