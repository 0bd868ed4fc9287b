import Gabarit.Proofs.Artifact.Members
import Gabarit.Proofs.Charset.Utf8

/-!
# Artifacts of programs

* `keepScalar`, `keepNode`, `keepProgram`: what is kept of a program in its artifact;
* `Recovers`-lemmas for each part of a node, and `recovers_node` for a node;
* **`decode_encode`**: the artifact of a program is read as what is kept of the program.
-/

namespace Gabarit.Artifact

open Text

/-! ## Heads -/

theorem readHead_writeText (s : String) (rest : Input) :
    readHead ((writeText s).map some ++ rest) = .ok (.text (s.toList.map some), rest) := by
  obtain ⟨body, hbody, hread⟩ := readString_writeText s rest
  rw [hbody, readHead, skipSpace_cons rfl]
  simp only [hread, Except.map]

theorem readHead_writeBool (b : Bool) (rest : Input) :
    readHead ((writeBool b).map some ++ rest) = .ok (.bool b, rest) := by
  cases b <;> rfl

theorem exists_head_chars {n : Numeral} (h : n.Plain) :
    ∃ c cs, n.chars = c :: cs ∧ (c = '-' ∨ c.isDigit = true) := by
  obtain ⟨negative, whole, frac, exponent⟩ := n
  obtain ⟨d, ds, hwhole, -⟩ := h.leading
  dsimp only at hwhole
  subst hwhole
  cases negative with
  | true => exact ⟨'-', _, rfl, .inl rfl⟩
  | false => exact ⟨d, _, rfl, .inr (digits_cons.mp h.whole).1⟩

theorem isSpace_head {c : Char} (hc : c = '-' ∨ c.isDigit = true) : isSpace (some c) = false := by
  obtain rfl | hc := hc
  · rfl
  · simp only [isSpace, Bool.or_eq_false_iff, beq_eq_false_iff_ne, ne_eq, Option.some.injEq]
    refine ⟨⟨⟨?_, ?_⟩, ?_⟩, ?_⟩ <;> (rintro rfl; revert hc; decide)

theorem opens_chars {n : Numeral} (h : n.Plain) : Opens n.chars := by
  obtain ⟨c, cs, hchars, hc⟩ := exists_head_chars h
  refine ⟨c, cs, hchars, isSpace_head hc, ?_, ?_⟩ <;> (rintro rfl; revert hc; decide)

theorem readHead_numeral {c : Char} (hc : c = '-' ∨ c.isDigit = true) (rest : Input) :
    readHead (some c :: rest) =
      (readNumeral (some c :: rest)).map fun (n, after) => (.number n, after) := by
  have hhead : c = '-' ∨ (asciiDigit? c).isSome := by
    obtain rfl | hc := hc
    · exact .inl rfl
    · exact .inr (by rw [asciiDigit?_of_isDigit hc]; rfl)
  unfold readHead
  rw [skipSpace_cons (isSpace_head hc)]
  split
  case h_7 heq =>
    cases heq
    rw [if_pos hhead]
  case h_8 hne => exact absurd rfl (hne c rest)
  all_goals
    rename_i heq
    cases heq
    exact absurd hc (by decide)

theorem readHead_chars {n : Numeral} (h : n.Plain) {rest : Input} (hr : Ends rest) :
    readHead (n.chars.map some ++ rest) = .ok (.number n, rest) := by
  obtain ⟨c, cs, hchars, hc⟩ := exists_head_chars h
  have hread := readNumeral_chars h hr
  rw [hchars, List.map_cons, List.cons_append] at hread ⊢
  rw [readHead_numeral hc, hread]
  rfl

/-! ## Simple values -/

theorem recovers_text (s : String) : Recovers readText (writeText s) (.ok s) := by
  refine ⟨opens_writeText s, fun rest _ => ?_⟩
  rw [readText, readHead_writeText]
  simp only [bind, Except.bind, textOf_map]
  rfl

theorem recovers_bool (b : Bool) : Recovers readBool (writeBool b) (.ok b) := by
  refine ⟨?_, fun rest _ => ?_⟩
  · cases b with
    | true => exact opens_cons rfl (by decide) (by decide)
    | false => exact opens_cons rfl (by decide) (by decide)
  · rw [readBool, readHead_writeBool]
    rfl

theorem recovers_operator (b : Bool) :
    Recovers readOperator (if b then writeText "==" else "null".toList) (.ok b) := by
  cases b with
  | true =>
    refine ⟨opens_writeText _, fun rest _ => ?_⟩
    rw [if_pos rfl, readOperator, readHead_writeText]
    simp only [bind, Except.bind, isName_map, decide_true, if_true]
    rfl
  | false => exact ⟨opens_cons rfl (by decide) (by decide), fun rest _ => rfl⟩

theorem writeInt_eq_ok {n : Int} {cs : List Char} (h : writeInt n = .ok cs) :
    cs = (intNumeralOf n).chars := by
  unfold writeInt at h
  split_ifs at h
  rw [chars_intNumeralOf]
  exact (Except.ok.inj h).symm

theorem recovers_int {n : Int} {cs : List Char} (h : writeInt n = .ok cs) :
    Recovers readInt cs (keepInt n) := by
  rw [writeInt_eq_ok h]
  refine ⟨opens_chars (plain_intNumeralOf n), fun rest hr => ?_⟩
  rw [readInt, readHead_chars (plain_intNumeralOf n) hr]
  simp only [bind, Except.bind, numberOf_intNumeralOf]
  cases keepInt n <;> rfl

/-- What is left of a literal that was stored: a number that is not finite has no form. -/
def keepScalar : Scalar → Except ArtifactFault Scalar
  | .int n => (keepInt n).map .int
  | .float x => .ok (if x.isFinite then .float x else .null)
  | .broken _ => .error .wrongShape
  | v => .ok v

theorem recovers_scalar {v : Scalar} {cs : List Char} (h : writeScalar v = .ok cs) :
    Recovers readScalar cs (keepScalar v) := by
  cases v with
  | null =>
    cases h
    exact ⟨opens_cons rfl (by decide) (by decide), fun rest _ => rfl⟩
  | bool b =>
    cases h
    refine ⟨(recovers_bool b).opens, fun rest _ => ?_⟩
    rw [readScalar, readHead_writeBool]
    rfl
  | int n =>
    rw [writeInt_eq_ok h]
    refine ⟨opens_chars (plain_intNumeralOf n), fun rest hr => ?_⟩
    rw [readScalar, readHead_chars (plain_intNumeralOf n) hr]
    simp only [bind, Except.bind, numberOf_intNumeralOf]
    rw [keepScalar]
    cases keepInt n <;> rfl
  | float x =>
    cases h
    rw [writeFloat, keepScalar]
    by_cases hx : x.isFinite
    · obtain ⟨n, hn, hchars, hvalue⟩ := exists_numeral_float hx
      rw [if_pos hx, if_pos hx, ← hchars]
      refine ⟨opens_chars hn, fun rest hr => ?_⟩
      rw [readScalar, readHead_chars hn hr]
      simp only [bind, Except.bind, hvalue]
      rfl
    · rw [if_neg hx, if_neg hx]
      exact ⟨opens_cons rfl (by decide) (by decide), fun rest _ => rfl⟩
  | text s =>
    cases h
    refine ⟨opens_writeText s, fun rest _ => ?_⟩
    rw [readScalar, readHead_writeText]
    simp only [bind, Except.bind, textOf_map]
    rfl
  | broken t => cases h

/-- What is left of a part of a path that was stored. -/
def keepPart : PathPart → Except ArtifactFault PathPart
  | .name s => .ok (.name s)
  | .index n => (keepInt n).map .index
  | .broken _ => .error .wrongShape

theorem recovers_part {part : PathPart} {cs : List Char} (h : writePart part = .ok cs) :
    Recovers readPart cs (keepPart part) := by
  cases part with
  | name s =>
    have hs : Recovers readScalar cs (keepScalar (.text s)) := recovers_scalar h
    refine ⟨hs.opens, fun rest hr => ?_⟩
    rw [readPart, hs.read rest hr]
    rfl
  | index n =>
    have hs : Recovers readScalar cs (keepScalar (.int n)) := recovers_scalar h
    refine ⟨hs.opens, fun rest hr => ?_⟩
    rw [readPart, hs.read rest hr, keepPart, keepScalar]
    cases keepInt n <;> rfl
  | broken t => cases h

/-! ## Paths, calls and nodes -/

/-- A field of a record changes a draft by what is recovered of its value. -/
theorem Recovers.updates {α σ : Type} {field : Input → σ → Input → Except ArtifactFault (σ × Input)}
    {read : Input → Except ArtifactFault (α × Input)} {value : List Char}
    {kept : Except ArtifactFault α} (h : Recovers read value kept) {name : String} {set : σ → α → σ}
    (hfield : ∀ key, (∀ a, isName a key = decide (name = a)) → ∀ state input,
      field key state input = (read input).map fun (a, rest) => (set state a, rest)) :
    Updates field (writeField name value) fun state => kept.map (set state) := by
  refine ⟨name, value, rfl, fun state rest hr => ?_⟩
  rw [hfield _ (isName_map · name), h.read rest hr]
  cases kept <;> rfl

/-- What is left of a field path that was stored. -/
def keepPath (p : FieldPath) : Except ArtifactFault FieldPath :=
  (p.parts.mapM keepPart).map fun parts => ⟨p.expr, parts⟩

theorem recovers_path {p : FieldPath} {cs : List Char} (h : writePath p = .ok cs) {fuel : ℕ}
    (hf : cs.length ≤ fuel) : Recovers (readPath fuel) cs (keepPath p) := by
  obtain ⟨parts, hparts, hcs⟩ := bind_eq_ok.mp h
  cases hcs
  have hlist : Recovers (readList readPart fuel) (writeArray parts) (p.parts.mapM keepPart) := by
    refine recovers_list hparts (fun _ _ hw _ => recovers_part hw) ?_
    simp only [writeObject, writeMembers, writeField, List.length_append, List.length_cons] at hf
    omega
  have hexpr : Updates (pathField fuel) (writeField "expr" (writeText p.expr)) fun d =>
      (Except.ok p.expr).map fun s => { d with expr := some s } :=
    (recovers_text p.expr).updates fun key hkey d input => by
      simp [pathField, hkey]
  have hfields : Updates (pathField fuel) (writeField "parts" (writeArray parts)) fun d =>
      (p.parts.mapM keepPart).map fun ps => { d with parts := some ps } :=
    hlist.updates fun key hkey d input => by
      simp [pathField, hkey]
  have hrecord := recovers_record (.cons hexpr (.cons hfields .nil)) hf {}
  refine ⟨hrecord.opens, fun rest hr => ?_⟩
  rw [readPath, hrecord.read rest hr, keepPath]
  cases p.parts.mapM keepPart <;> rfl

/-- What is left of a filter call that was stored. -/
def keepCall (c : FilterCall) : Except ArtifactFault FilterCall := do
  let args ← c.args.mapM keepScalar
  let slot ← keepInt c.slot
  return ⟨c.name, args, slot⟩

theorem recovers_call {c : FilterCall} {cs : List Char} (h : writeCall c = .ok cs) {fuel : ℕ}
    (hf : cs.length ≤ fuel) : Recovers (readCall fuel) cs (keepCall c) := by
  obtain ⟨args, hargs, h⟩ := bind_eq_ok.mp h
  obtain ⟨slot, hslot, hcs⟩ := bind_eq_ok.mp h
  cases hcs
  have hlist : Recovers (readList readScalar fuel) (writeArray args) (c.args.mapM keepScalar) := by
    refine recovers_list hargs (fun _ _ hw _ => recovers_scalar hw) ?_
    simp only [writeObject, writeMembers, writeField, List.length_append, List.length_cons] at hf
    omega
  have hname : Updates (callField fuel) (writeField "name" (writeText c.name)) fun d =>
      (Except.ok c.name).map fun s => { d with name := some s } :=
    (recovers_text c.name).updates fun key hkey d input => by
      simp [callField, hkey]
  have hargs : Updates (callField fuel) (writeField "args" (writeArray args)) fun d =>
      (c.args.mapM keepScalar).map fun vs => { d with args := vs } :=
    hlist.updates fun key hkey d input => by
      simp [callField, hkey]
  have hslot : Updates (callField fuel) (writeField "slot" slot) fun d =>
      (keepInt c.slot).map fun n => { d with slot := n } :=
    (recovers_int hslot).updates fun key hkey d input => by
      simp [callField, hkey]
  have hrecord := recovers_record (.cons hname (.cons hargs (.cons hslot .nil))) hf {}
  refine ⟨hrecord.opens, fun rest hr => ?_⟩
  rw [readCall, hrecord.read rest hr, keepCall]
  cases c.args.mapM keepScalar with
  | error e => rfl
  | ok args => cases keepInt c.slot <;> rfl

/-- What is left of a node that was stored. -/
def keepNode : Node → Except ArtifactFault Node
  | .text s => .ok (.text s)
  | .echo path filters escape => do
    let p ← keepPath path
    let calls ← filters.mapM keepCall
    return .echo p calls escape
  | .loop path target => do return .loop (← keepPath path) (← keepInt target)
  | .cond path target compares operand => do
    let p ← keepPath path
    let e ← keepInt target
    let o ← keepScalar operand
    return .cond p e compares o
  | .close opener => (keepInt opener).map .close

/-- The kind of a node. -/
def kindOf : Node → Kind
  | .text _ => .text
  | .echo .. => .echo
  | .loop .. => .loop
  | .cond .. => .cond
  | .close _ => .close

theorem kindOf?_kindName (node : Node) :
    kindOf? ((kindName node).toList.map some) = some (kindOf node) := by
  rw [kindOf?]
  simp only [isName_map]
  cases node <;> rfl

/-- The name of a kind is read where it is written. -/
theorem readKind_kindName (node : Node) (rest : Input) :
    readKind ((writeText (kindName node)).map some ++ rest) = .ok (kindOf node, rest) := by
  obtain ⟨body, hbody, hread⟩ := readString_writeText (kindName node) rest
  rw [hbody, readKind, skipSpace_cons rfl]
  simp only [hread, bind, Except.bind, kindOf?_kindName]
  rfl

/-- The kind of a node, which stands first, is found there. -/
theorem findKind_kindName (node : Node) (ms : List (List Char)) {fuel n : ℕ} (hn : 0 < n) (rest : Input) :
    findKind fuel n true ((writeMembers (writeField "kind" (writeText (kindName node)) :: ms)).map some
      ++ rest) = .ok (kindOf node, some ((laterMembers ms).map some ++ rest)) := by
  obtain ⟨n, rfl⟩ := Nat.exists_eq_succ_of_ne_zero (Nat.ne_of_gt hn)
  rw [writeMembers_cons, List.map_append, List.append_assoc, findKind,
    nextMember_first (.inr rfl) (opens_writeField _ _)]
  simp only [bind, Except.bind, if_true, readKey_writeField, isName_map, decide_true,
    readKind_kindName]
  rfl

/-- A node is read from fields after its kind that are read one after the other. -/
theorem recovers_fields (node : Node) {fuel : ℕ} {ms : List (List Char)}
    {effects : List (NodeDraft → Except ArtifactFault NodeDraft)}
    (h : List.Forall₂ (Updates (nodeField fuel (kindOf node))) ms effects)
    (hf : (writeObject (writeField "kind" (writeText (kindName node)) :: ms)).length ≤ fuel) :
    Recovers (readNode fuel) (writeObject (writeField "kind" (writeText (kindName node)) :: ms))
      ((afterFields effects {}).bind fun d =>
        (d.node? (kindOf node)).elim (.error .wrongShape) .ok) := by
  have hlen : ms.length < fuel := by
    have := length_le_writeMembers (writeField "kind" (writeText (kindName node)) :: ms)
    simp only [writeObject, List.length_cons, List.length_append] at hf this
    omega
  refine ⟨opens_cons rfl (by decide) (by decide), fun rest _ => ?_⟩
  have hhead (rest : Input) : readHead (some '\x7b' :: rest) = .ok (.object, rest) := rfl
  rw [writeObject, List.map_cons, List.cons_append, List.map_append, List.map_singleton,
    List.append_assoc, List.singleton_append, readNode, hhead]
  simp only [bind, Except.bind, findKind_kindName node ms (Nat.zero_lt_of_lt hlen),
    readObject_later h hlen]
  cases afterFields effects {} with
  | error e => rfl
  | ok d =>
    simp only [Except.map]
    cases d.node? (kindOf node) <;> rfl

section Fields

variable {fuel : ℕ}

theorem updates_path {kind : Kind} (hkind : kind = .echo ∨ kind = .loop ∨ kind = .cond) {p : FieldPath}
    {cs : List Char} (h : writePath p = .ok cs) (hf : cs.length ≤ fuel) :
    Updates (nodeField fuel kind) (writeField "path" cs) fun d =>
      (keepPath p).map fun p => { d with path := some p } :=
  (recovers_path h hf).updates fun key hkey d input => by
    simp [nodeField, hkey, hkind]

theorem updates_target {kind : Kind} (hkind : kind = .loop ∨ kind = .cond) {n : Int} {cs : List Char}
    (h : writeInt n = .ok cs) :
    Updates (nodeField fuel kind) (writeField "end" cs) fun d =>
      (keepInt n).map fun n => { d with target := some n } :=
  (recovers_int h).updates fun key hkey d input => by
    simp [nodeField, hkey, hkind]

theorem updates_text (s : String) :
    Updates (nodeField fuel .text) (writeField "text" (writeText s)) fun d =>
      (Except.ok s).map fun s => { d with text := some s } :=
  (recovers_text s).updates fun key hkey d input => by simp [nodeField, hkey]

theorem updates_filters {filters : List FilterCall} {calls : List (List Char)}
    (h : filters.mapM writeCall = .ok calls) (hf : (writeArray calls).length ≤ fuel) :
    Updates (nodeField fuel .echo) (writeField "filters" (writeArray calls)) fun d =>
      (filters.mapM keepCall).map fun cs => { d with filters := cs } :=
  (recovers_list h (fun _ _ hw hl => recovers_call hw hl.le) hf).updates fun key hkey d input => by
    simp [nodeField, hkey]

theorem updates_escape (escape : Bool) :
    Updates (nodeField fuel .echo) (writeField "escape" (writeBool escape)) fun d =>
      (Except.ok escape).map fun b => { d with escape := b } :=
  (recovers_bool escape).updates fun key hkey d input => by simp [nodeField, hkey]

theorem updates_operator (compares : Bool) :
    Updates (nodeField fuel .cond)
      (writeField "op" (if compares then writeText "==" else "null".toList)) fun d =>
        (Except.ok compares).map fun b => { d with compares := b } :=
  (recovers_operator compares).updates fun key hkey d input => by simp [nodeField, hkey]

theorem updates_operand {operand : Scalar} {cs : List Char} (h : writeScalar operand = .ok cs) :
    Updates (nodeField fuel .cond) (writeField "operand" cs) fun d =>
      (keepScalar operand).map fun v => { d with operand := v } :=
  (recovers_scalar h).updates fun key hkey d input => by simp [nodeField, hkey]

theorem updates_opener {opener : Int} {cs : List Char} (h : writeInt opener = .ok cs) :
    Updates (nodeField fuel .close) (writeField "start" cs) fun d =>
      (keepInt opener).map fun n => { d with opener := some n } :=
  (recovers_int h).updates fun key hkey d input => by simp [nodeField, hkey]

end Fields

/-- A node is read from what is written of it, up to what an artifact keeps of numbers. -/
theorem recovers_node {node : Node} {cs : List Char} (h : writeNode node = .ok cs) {fuel : ℕ}
    (hf : cs.length ≤ fuel) : Recovers (readNode fuel) cs (keepNode node) := by
  obtain ⟨fields, hfields, hcs⟩ := bind_eq_ok.mp h
  cases hcs
  cases node with
  | text s =>
    cases hfields
    exact recovers_fields (.text s) (.cons (updates_text s) .nil) hf
  | echo path filters escape =>
    obtain ⟨p, hp, hfields⟩ := bind_eq_ok.mp hfields
    obtain ⟨calls, hcalls, hfields⟩ := bind_eq_ok.mp hfields
    cases hfields
    have hlen : p.length ≤ fuel ∧ (writeArray calls).length ≤ fuel := by
      simp only [writeObject, writeMembers, writeField, List.length_append, List.length_cons] at hf
      omega
    have hnode := recovers_fields (.echo path filters escape) (.cons (updates_path (.inl rfl) hp hlen.1)
      (.cons (updates_filters hcalls hlen.2) (.cons (updates_escape escape) .nil))) hf
    refine ⟨hnode.opens, fun rest hr => ?_⟩
    rw [hnode.read rest hr, keepNode]
    cases keepPath path with
    | error e => rfl
    | ok p => cases filters.mapM keepCall <;> rfl
  | loop path target =>
    obtain ⟨p, hp, hfields⟩ := bind_eq_ok.mp hfields
    obtain ⟨n, hn, hfields⟩ := bind_eq_ok.mp hfields
    cases hfields
    have hlen : p.length ≤ fuel := by
      simp only [writeObject, writeMembers, writeField, List.length_append, List.length_cons] at hf
      omega
    have hnode := recovers_fields (.loop path target)
      (.cons (updates_path (.inr (.inl rfl)) hp hlen) (.cons (updates_target (.inl rfl) hn) .nil)) hf
    refine ⟨hnode.opens, fun rest hr => ?_⟩
    rw [hnode.read rest hr, keepNode]
    cases keepPath path with
    | error e => rfl
    | ok p => cases keepInt target <;> rfl
  | cond path target compares operand =>
    obtain ⟨p, hp, hfields⟩ := bind_eq_ok.mp hfields
    obtain ⟨n, hn, hfields⟩ := bind_eq_ok.mp hfields
    obtain ⟨o, ho, hfields⟩ := bind_eq_ok.mp hfields
    cases hfields
    have hlen : p.length ≤ fuel := by
      simp only [writeObject, writeMembers, writeField, List.length_append, List.length_cons] at hf
      omega
    have hnode := recovers_fields (.cond path target compares operand)
      (.cons (updates_path (.inr (.inr rfl)) hp hlen) (.cons (updates_target (.inr rfl) hn)
        (.cons (updates_operator compares) (.cons (updates_operand ho) .nil)))) hf
    refine ⟨hnode.opens, fun rest hr => ?_⟩
    rw [hnode.read rest hr, keepNode]
    cases keepPath path with
    | error e => rfl
    | ok p =>
      cases keepInt target with
      | error e => rfl
      | ok n => cases keepScalar operand <;> rfl
  | close opener =>
    obtain ⟨n, hn, hfields⟩ := bind_eq_ok.mp hfields
    cases hfields
    have hnode := recovers_fields (.close opener) (.cons (updates_opener hn) .nil) hf
    refine ⟨hnode.opens, fun rest hr => ?_⟩
    rw [hnode.read rest hr, keepNode]
    cases keepInt opener <;> rfl

/-! ## Programs -/

/-- What is left of a program that was stored. -/
def keepProgram (p : Program) : Except ArtifactFault Program := do
  let nodes ← p.nodes.toList.mapM keepNode
  let version ← keepInt p.version
  return ⟨nodes.toArray, version⟩

theorem readProgram_writeProgram {p : Program} {cs : List Char} (h : writeProgram p = .ok cs) :
    readProgram (cs.map some) = keepProgram p := by
  obtain ⟨ms, hms, h⟩ := bind_eq_ok.mp h
  obtain ⟨v, hv, hcs⟩ := bind_eq_ok.mp h
  cases hcs
  have hf : (writeObject [writeField "nodes" (writeArray ms), writeField "version" v]).length ≤
      ((writeObject [writeField "nodes" (writeArray ms), writeField "version" v]).map some).length + 1 := by
    rw [List.length_map]
    exact Nat.le_succ _
  rw [readProgram]
  dsimp only
  generalize List.length _ + 1 = fuel at hf ⊢
  have hlist : Recovers (readList (readNode fuel) fuel) (writeArray ms) (p.nodes.toList.mapM keepNode) :=
    recovers_list hms (fun _ _ hw hl => recovers_node hw hl.le) (by
      simp only [writeObject, writeMembers, writeField, List.length_append, List.length_cons] at hf
      omega)
  have hnodes : Updates (programField fuel) (writeField "nodes" (writeArray ms)) fun d =>
      (p.nodes.toList.mapM keepNode).map fun ns => { d with nodes := some ns } :=
    hlist.updates fun key hkey d input => by simp [programField, hkey]
  have hversion : Updates (programField fuel) (writeField "version" v) fun d =>
      (keepInt p.version).map fun n => { d with version := n } :=
    (recovers_int hv).updates fun key hkey d input => by simp [programField, hkey]
  have hread := (recovers_record (.cons hnodes (.cons hversion .nil)) hf {}).read [] (by simp [Ends])
  rw [List.append_nil] at hread
  rw [hread, keepProgram]
  cases p.nodes.toList.mapM keepNode with
  | error e => rfl
  | ok nodes => cases keepInt p.version <;> rfl

end Gabarit.Artifact

namespace Gabarit

open Artifact

/-- **The artifact of a program is read as what is kept of the program.** -/
theorem Program.decode_encode {p : Program} {text : String} (h : p.encode = .ok text) :
    Program.decode (Utf8.encode text.toList) = keepProgram p := by
  obtain ⟨cs, hcs, rfl⟩ := map_eq_ok.mp h
  rw [Program.decode, Utf8.symbols_encode, String.toList_ofList, readProgram_writeProgram hcs]

end Gabarit
