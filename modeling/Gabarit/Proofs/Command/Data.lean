import Gabarit.Command.Run
import Gabarit.Proofs.Disk.Tree

/-!
# The data of a rendering

A command that renders reads its settings, its data and its assignments before the engine is asked.

* `Session.Inert`: steps that change no file, and fail with an exit code that tells so;
* `DataFile`, `RenderRequest.HasData`: the data of a request;
* `find?_insert`, `find?_assigned`: of several values for a key the last one counts;
* `engineOf_inert`, `dataOf_inert`, `assign_inert`: the steps before the engine only read.
-/

namespace Gabarit

open Disk

/-! ## Steps that only read -/

/-- The step leaves the disk as it is; if it ends the command, then by a failure. -/
def Session.Inert {α : Type} (x : Session α) : Prop :=
  ∀ d, (∃ a, x d = .ok a d) ∨ ∃ o, x d = .error o d ∧ o.code ≠ 0

namespace Session.Inert

variable {α β : Type}

theorem pure (a : α) : Inert (Pure.pure a) := fun _ => .inl ⟨a, rfl⟩

theorem throw {o : Outcome} (h : o.code ≠ 0) : Inert (MonadExcept.throw o : Session α) :=
  fun _ => .inr ⟨o, rfl, h⟩

theorem fail (message : String) : Inert (Session.fail message : Session α) := throw Nat.one_ne_zero

theorem pure_bind {a : α} {f : α → Session β} (h : (f a).Inert) : Inert (Pure.pure a >>= f) := h

theorem fail_bind (message : String) (f : α → Session β) : Inert (Session.fail message >>= f) :=
  fun _ => .inr ⟨_, rfl, Nat.one_ne_zero⟩

theorem get : Inert (MonadState.get : Session Disk) := fun d => .inl ⟨d, rfl⟩

theorem bind {x : Session α} {f : α → Session β} (hx : x.Inert) (hf : ∀ a, (f a).Inert) :
    (x >>= f).Inert := by
  intro d
  rw [EStateM.bind_apply]
  obtain ⟨a, ha⟩ | ⟨o, ho, hcode⟩ := hx d
  · rw [ha]
    exact hf a d
  · rw [ho]
    exact .inr ⟨o, rfl, hcode⟩

theorem ask (question : Disk → Except Fault α) : Inert (Session.ask question) := by
  refine get.bind fun d => ?_
  cases question d with
  | ok a => exact pure a
  | error f => exact throw Nat.one_ne_zero

theorem foldlM {f : β → α → Session β} (hf : ∀ b a, (f b a).Inert) (b : β) (as : List α) :
    (as.foldlM f b).Inert := by
  induction as generalizing b with
  | nil => exact pure b
  | cons a as ih =>
    rw [List.foldlM_cons]
    exact (hf b a).bind ih

end Session.Inert

theorem Session.ask_eq_ok {α : Type} {question : Disk → Except Fault α} {d d' : Disk} {a : α} :
    Session.ask question d = .ok a d' ↔ question d = .ok a ∧ d = d' := by
  rw [Session.ask, EStateM.bind_apply, EStateM.get_apply]
  dsimp only
  constructor
  · intro h
    cases hquestion : question d with
    | ok b =>
      rw [hquestion] at h
      cases h
      exact ⟨rfl, rfl⟩
    | error f =>
      rw [hquestion] at h
      cases h
  · rintro ⟨hquestion, rfl⟩
    rw [hquestion]
    rfl

open Session

theorem engineOf_inert (homes : Config.Homes) (path : Option Path) : (engineOf homes path).Inert := by
  obtain _ | p := path
  on_goal 1 =>
    refine (Inert.ask _).bind fun found => ?_
    obtain _ | p := found
    · exact .pure _
    refine Inert.get.bind fun d => ?_
  on_goal 2 =>
    refine (Inert.ask _).bind fun there => ?_
    obtain _ | _ := there
    · exact .fail_bind _ _
    refine .pure_bind (Inert.get.bind fun d => ?_)
  -- what is done with the settings does not depend on how their file was found
  all_goals
    split
    · exact .pure _
    · split_ifs
      · exact .fail _
      · exact .throw Nat.one_ne_zero

theorem dataOf_inert (path : Option Path) : (dataOf path).Inert := by
  cases path with
  | none => exact .pure []
  | some p =>
    refine (Inert.ask _).bind fun there => ?_
    cases there with
    | false => exact .fail_bind _ _
    | true =>
      refine (Inert.ask _).bind fun bytes => (Inert.ask _).bind fun cs => ?_
      split
      · exact .pure _
      · exact .pure _
      · exact .fail _
      · split_ifs
        · exact .fail _
        · exact .throw Nat.one_ne_zero

theorem assign_inert (entries : List (Value × Value)) (text : String) : (assign entries text).Inert := by
  unfold assign
  split
  · exact .pure _
  · exact .throw Nat.one_ne_zero
  · exact .throw (by decide)

/-! ## Data -/

/-- What a file of data holds: the entries of its mapping, or none if it holds nothing or there is no
file. -/
def DataFile (d : Disk) (path : Option Path) (entries : List (Value × Value)) : Prop :=
  match path with
  | none => entries = []
  | some p => ∃ bytes cs, d.read p = .ok bytes ∧ Charset.decodeFile (.utf8 false) bytes = .ok cs ∧
      (Yaml.load (String.ofList cs) = .ok .none ∧ entries = [] ∨
        Yaml.load (String.ofList cs) = .ok (.dict entries))

/-- The data of a request: what its file holds, with the values of the assignments set from left to right,
so that for each key the last one counts. -/
def RenderRequest.HasData (d : Disk) (r : RenderRequest) (data : List (Value × Value)) : Prop :=
  ∃ entries assigned, DataFile d r.data entries ∧
    List.Forall₂ (fun text a => Assignment.parse text = .ok a) r.assignments assigned ∧
    data = assigned.foldl (fun entries a => Value.insert (.str a.key) a.value entries) entries ∧
    ∀ key, Value.find? (.str key) data =
      ((assigned.reverse.find? (·.key = key)).map (·.value)).or (Value.find? (.str key) entries)

theorem equal_str (v : Value) (s : String) : v.equal (.str s) = true ↔ v = .str s := by
  cases v <;> simp [Value.equal, Value.numeric?, Value.bytes?, Value.entries?]

theorem find?_insert (key key' : String) (v : Value) (entries : List (Value × Value)) :
    Value.find? (.str key) (Value.insert (.str key') v entries) =
      if key' = key then some v else Value.find? (.str key) entries := by
  unfold Value.find?
  induction entries with
  | nil =>
    rw [Value.insert, List.find?_singleton]
    by_cases h : key' = key
    · rw [if_pos h, if_pos ((equal_str _ _).mpr (congrArg _ h))]
      rfl
    · rw [if_neg h, if_neg (mt (equal_str _ _).mp fun heq => h (Value.str.inj heq))]
      rfl
  | cons e entries ih =>
    obtain ⟨k, w⟩ := e
    rw [Value.insert]
    by_cases hk : k.equal (.str key') = true
    · obtain rfl := (equal_str k key').mp hk
      rw [if_pos hk, List.find?_cons, List.find?_cons]
      by_cases h : key' = key
      · subst h
        simp [hk]
      · have hother : (Value.str key').equal (.str key) = false :=
          Bool.eq_false_iff.mpr (mt (equal_str _ _).mp fun heq => h (Value.str.inj heq))
        simp [hother, h]
    · rw [if_neg hk, List.find?_cons, List.find?_cons]
      by_cases hkey : k.equal (.str key) = true
      · obtain rfl := (equal_str k key).mp hkey
        have hne : key' ≠ key := fun h => hk ((equal_str _ _).mpr (congrArg _ h.symm))
        simp [hkey, hne]
      · simp only [Bool.not_eq_true] at hkey
        simpa [hkey] using ih

/-- **The last assignment of a key counts.** -/
theorem find?_assigned (key : String) (assigned : List Assignment) (entries : List (Value × Value)) :
    Value.find? (.str key)
        (assigned.foldl (fun entries a => Value.insert (.str a.key) a.value entries) entries) =
      ((assigned.reverse.find? (·.key = key)).map (·.value)).or (Value.find? (.str key) entries) := by
  induction assigned generalizing entries with
  | nil => rfl
  | cons a assigned ih =>
    rw [List.foldl_cons, ih, find?_insert, List.reverse_cons, List.find?_append, List.find?_singleton]
    cases assigned.reverse.find? (·.key = key) with
    | some b => rfl
    | none => by_cases h : a.key = key <;> simp [h]

theorem dataOf_eq_ok {d d' : Disk} {path : Option Path} {entries : List (Value × Value)}
    (h : dataOf path d = .ok entries d') : DataFile d path entries := by
  cases path with
  | none =>
    cases h
    rfl
  | some p =>
    obtain ⟨there, d₁, hthere, h⟩ := EStateM.bind_eq_ok.mp h
    obtain ⟨-, rfl⟩ := Session.ask_eq_ok.mp hthere
    cases there with
    | false => cases h
    | true =>
      obtain ⟨bytes, d₂, hread, h⟩ := EStateM.bind_eq_ok.mp h
      obtain ⟨hbytes, rfl⟩ := Session.ask_eq_ok.mp hread
      obtain ⟨cs, d₃, hdecode, h⟩ := EStateM.bind_eq_ok.mp h
      obtain ⟨hcs, rfl⟩ := Session.ask_eq_ok.mp hdecode
      refine ⟨bytes, cs, mapError_eq_ok.mp hbytes, hcs, ?_⟩
      cases hload : Yaml.load (String.ofList cs) with
      | error f =>
        rw [hload] at h
        dsimp only at h
        split_ifs at h <;> cases h
      | ok v =>
        rw [hload] at h
        cases v <;> cases h
        · exact .inl ⟨rfl, rfl⟩
        · exact .inr rfl

theorem dataOf_of_dataFile {d : Disk} {path : Option Path} {entries : List (Value × Value)}
    (h : DataFile d path entries) : dataOf path d = .ok entries d := by
  cases path with
  | none =>
    obtain rfl : entries = [] := h
    rfl
  | some p =>
    obtain ⟨bytes, cs, hread, hdecode, hload⟩ := h
    obtain ⟨t, hstat⟩ := read_eq_ok.mp hread
    have hthere : d.exists? p = .ok true := by
      rw [Disk.exists?, holds, hstat]
    rw [dataOf, EStateM.bind_apply, Session.ask_eq_ok.mpr ⟨mapError_eq_ok.mpr hthere, rfl⟩]
    change (Session.ask _ >>= _) d = _
    rw [EStateM.bind_apply, Session.ask_eq_ok.mpr ⟨mapError_eq_ok.mpr hread, rfl⟩]
    dsimp only
    rw [EStateM.bind_apply, Session.ask_eq_ok.mpr ⟨hdecode, rfl⟩]
    dsimp only
    obtain ⟨hload, rfl⟩ | hload := hload <;> rw [hload] <;> rfl

theorem assign_eq_ok {d d' : Disk} {entries after : List (Value × Value)} {text : String}
    (h : assign entries text d = .ok after d') : ∃ a, Assignment.parse text = .ok a ∧
      after = Value.insert (.str a.key) a.value entries := by
  unfold assign at h
  cases ha : Assignment.parse text with
  | ok a =>
    rw [ha] at h
    cases h
    exact ⟨a, rfl, rfl⟩
  | error refusal =>
    rw [ha] at h
    cases refusal <;> cases h

theorem assignments_eq_ok {d d' : Disk} {entries data : List (Value × Value)} {texts : List String}
    (h : texts.foldlM assign entries d = .ok data d') : ∃ assigned,
      List.Forall₂ (fun text a => Assignment.parse text = .ok a) texts assigned ∧
      data = assigned.foldl (fun entries a => Value.insert (.str a.key) a.value entries) entries := by
  induction texts generalizing entries d with
  | nil =>
    cases h
    exact ⟨[], .nil, rfl⟩
  | cons text texts ih =>
    rw [List.foldlM_cons] at h
    obtain ⟨after, d₁, hassign, h⟩ := EStateM.bind_eq_ok.mp h
    obtain ⟨a, ha, rfl⟩ := assign_eq_ok hassign
    obtain ⟨assigned, hassigned, rfl⟩ := ih h
    exact ⟨a :: assigned, .cons ha hassigned, rfl⟩

theorem assignments_of_parse {d : Disk} {entries : List (Value × Value)} {texts : List String}
    {assigned : List Assignment}
    (h : List.Forall₂ (fun text a => Assignment.parse text = .ok a) texts assigned) :
    texts.foldlM assign entries d =
      .ok (assigned.foldl (fun entries a => Value.insert (.str a.key) a.value entries) entries) d := by
  induction h generalizing entries with
  | nil => rfl
  | @cons text a texts assigned ha _ ih =>
    have hassign : assign entries text d = .ok (Value.insert (.str a.key) a.value entries) d := by
      rw [assign, ha]
      rfl
    rw [List.foldlM_cons, EStateM.bind_apply, hassign]
    exact ih

end Gabarit
