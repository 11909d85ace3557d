import Mathlib.Data.List.Forall2
import Mathlib.Tactic.Lemma
import TeamSync.Json.Scan

/-!
The grammar of JSON texts, and the scan of them. A text that the grammar allows scans to the tree
that it spells, whatever its blanks, its escapes and the form of its numbers, and a reader that
keeps nothing can pass over all of it.
-/

namespace TeamSync.Json

/-! ### The grammar -/

/-- Blanks, of which any number may stand between the parts of a text. -/
def Blanks (bs : List UInt8) : Prop := ∀ b ∈ bs, b = 0x20 ∨ b = 0x0A ∨ b = 0x0D ∨ b = 0x09

lemma blanks_nil : Blanks [] := nofun

/-- The byte of a decimal digit. -/
def digitByte (d : ℕ) : UInt8 := UInt8.ofNat (0x30 + d)

/-- What is written for an exponent: either letter, a sign or none, and digits. -/
inductive SpellsExponent : Option (Bool × List ℕ) → List UInt8 → Prop where
  | none : SpellsExponent none []
  | some {e : UInt8} {sign : List UInt8} {negative : Bool} {ds : List ℕ}
      (he : e = 0x65 ∨ e = 0x45)
      (hs : (sign, negative) ∈ [([], false), ([0x2B], false), ([0x2D], true)])
      (hne : ds ≠ []) (hds : ∀ d ∈ ds, d < 10) :
      SpellsExponent (some (negative, ds)) (e :: sign ++ ds.map digitByte)

/-- What is written for a number: maybe a minus sign, then zero or digits that do not begin with it,
and maybe a fraction and an exponent. -/
inductive SpellsNumber : NumberLiteral → List UInt8 → Prop where
  | intro {negative : Bool} {d : ℕ} {ds fraction : List ℕ} {exponent : Option (Bool × List ℕ)}
      {bs : List UInt8} (hd : d < 10) (hds : ∀ e ∈ ds, e < 10) (hzero : d = 0 → ds = [])
      (hf : ∀ e ∈ fraction, e < 10) (he : SpellsExponent exponent bs) :
      SpellsNumber ⟨negative, d :: ds, fraction, exponent, none⟩
        ((if negative then [0x2D] else []) ++ (d :: ds).map digitByte ++
          (if fraction = [] then [] else 0x2E :: fraction.map digitByte) ++ bs)

/-- What is written for a hexadecimal digit, in either case. -/
inductive SpellsHex : ℕ → UInt8 → Prop where
  | decimal {d : ℕ} (h : d < 10) : SpellsHex d (digitByte d)
  | upper {d : ℕ} (h : d < 6) : SpellsHex (10 + d) (UInt8.ofNat (0x41 + d))
  | lower {d : ℕ} (h : d < 6) : SpellsHex (10 + d) (UInt8.ofNat (0x61 + d))

/-- The letters that may follow a backslash, each with the byte that it stands for. -/
def shortEscapes : List (UInt8 × UInt8) :=
  [(0x22, 0x22), (0x5C, 0x5C), (0x2F, 0x2F), (0x62, 0x08), (0x66, 0x0C), (0x6E, 0x0A),
    (0x72, 0x0D), (0x74, 0x09)]

/-- A byte that stands for itself inside a string. -/
def Plain (b : UInt8) : Prop := b ≠ 0x22 ∧ b ≠ 0x5C ∧ ¬b < 0x20

/-- What is written for a piece of a string. -/
inductive SpellsPiece : Piece → List UInt8 → Prop where
  | byte {b : UInt8} (h : Plain b) : SpellsPiece (.byte b) [b]
  | short {l b : UInt8} (h : (l, b) ∈ shortEscapes) : SpellsPiece (.short b) [0x5C, l]
  | unit {u v w x : ℕ} {a b c d : UInt8} (ha : SpellsHex u a) (hb : SpellsHex v b)
      (hc : SpellsHex w c) (hd : SpellsHex x d) :
      SpellsPiece (.unit (((u * 16 + v) * 16 + w) * 16 + x)) [0x5C, 0x75, a, b, c, d]

/-- What is written for a string: its pieces between quotes. -/
inductive SpellsString : StringLiteral → List UInt8 → Prop where
  | intro {ps : List Piece} {parts : List (List UInt8)} (h : List.Forall₂ SpellsPiece ps parts) :
      SpellsString ⟨ps, none⟩ (0x22 :: parts.flatten ++ [0x22])

/-- A phrase of the grammar, with what it stands for. -/
inductive Phrase where
  | value (n : Node)
  /-- A value with blanks around it. -/
  | element (n : Node)
  /-- The elements between the brackets of an array. -/
  | elements (ns : List Node)
  /-- A key with blanks around it, and its value. -/
  | member (k : StringLiteral) (n : Node)
  /-- The members between the braces of an object. -/
  | members (ms : List (StringLiteral × Node))

/-- What is written for a phrase. -/
inductive Spells : Phrase → List UInt8 → Prop where
  | null : Spells (.value .null) [0x6E, 0x75, 0x6C, 0x6C]
  | yes : Spells (.value (.bool true)) [0x74, 0x72, 0x75, 0x65]
  | no : Spells (.value (.bool false)) [0x66, 0x61, 0x6C, 0x73, 0x65]
  | number {l : NumberLiteral} {bs : List UInt8} (h : SpellsNumber l bs) :
      Spells (.value (.number l)) bs
  | string {s : StringLiteral} {bs : List UInt8} (h : SpellsString s bs) :
      Spells (.value (.string s)) bs
  | emptyArray {bs : List UInt8} (h : Blanks bs) :
      Spells (.value (.array [] .closed)) (0x5B :: bs ++ [0x5D])
  | array {ns : List Node} {bs : List UInt8} (h : Spells (.elements ns) bs) :
      Spells (.value (.array ns .closed)) (0x5B :: bs ++ [0x5D])
  | emptyObject {bs : List UInt8} (h : Blanks bs) :
      Spells (.value (.object [] .closed)) (0x7B :: bs ++ [0x7D])
  | object {ms : List (StringLiteral × Node)} {bs : List UInt8} (h : Spells (.members ms) bs) :
      Spells (.value (.object ms .closed)) (0x7B :: bs ++ [0x7D])
  | element {n : Node} {before bs after : List UInt8} (hb : Blanks before)
      (h : Spells (.value n) bs) (ha : Blanks after) :
      Spells (.element n) (before ++ bs ++ after)
  | lastElement {n : Node} {bs : List UInt8} (h : Spells (.element n) bs) :
      Spells (.elements [n]) bs
  | nextElement {n : Node} {ns : List Node} {bs cs : List UInt8} (h : Spells (.element n) bs)
      (hs : Spells (.elements ns) cs) : Spells (.elements (n :: ns)) (bs ++ 0x2C :: cs)
  | member {k : StringLiteral} {n : Node} {before ks after bs : List UInt8} (hb : Blanks before)
      (hk : SpellsString k ks) (ha : Blanks after) (h : Spells (.element n) bs) :
      Spells (.member k n) (before ++ ks ++ after ++ 0x3A :: bs)
  | lastMember {k : StringLiteral} {n : Node} {bs : List UInt8} (h : Spells (.member k n) bs) :
      Spells (.members [(k, n)]) bs
  | nextMember {k : StringLiteral} {n : Node} {ms : List (StringLiteral × Node)}
      {bs cs : List UInt8} (h : Spells (.member k n) bs) (hs : Spells (.members ms) cs) :
      Spells (.members ((k, n) :: ms)) (bs ++ 0x2C :: cs)

/-- A text is a JSON text that spells a node: one value, with blanks around it. -/
def IsText (body : List UInt8) (n : Node) : Prop := Spells (.element n) body

namespace Scan

/-! ### Scanning in parts -/

@[simp] lemma run_nil (s : State) : run s [] = s := rfl

@[simp] lemma run_cons (s : State) (b : UInt8) (bs : List UInt8) :
    run s (b :: bs) = run (step s b) bs := rfl

lemma run_append (s : State) (bs cs : List UInt8) : run s (bs ++ cs) = run (run s bs) cs :=
  List.foldl_append

/-- The states in which a node has been read above some open containers. That a number is complete
shows only in what follows it. -/
inductive Reads (n : Node) (stack : List Frame) : State → Prop where
  | delivered : Reads n stack (deliver n stack)
  | number {p : PartialNumber} (h : p.part.mayEnd = true) (hn : n = .number (p.literal none)) :
      Reads n stack ⟨.number p, stack⟩

lemma Reads.of_eq {n : Node} {stack : List Frame} {s : State} (h : s = deliver n stack) :
    Reads n stack s :=
  h ▸ .delivered

/-- Where a value may begin. -/
inductive Opens : Mode → Prop where
  | value : Opens .value
  | element : Opens .element
  | nextElement : Opens .nextElement

/-- A byte that a value begins with. -/
def Leading (b : UInt8) : Prop := isBlank b = false ∧ b ≠ 0x5D

/-- A byte that does not continue a number: a blank, a comma or the end of a container. -/
def Apart (b : UInt8) : Prop := b ∈ [0x20, 0x0A, 0x0D, 0x09, 0x2C, 0x5D, 0x7D]

variable {m : Mode} {stack : List Frame} {s : State} {bs : List UInt8} {n : Node} {es : List Node}
  {ms : List (StringLiteral × Node)} {k : StringLiteral}

lemma step_leading (hm : Opens m) {b : UInt8} (hb : Leading b) (stack : List Frame) :
    step ⟨m, stack⟩ b = beginValue b stack := by
  cases hm <;> simp [step, stepBetween, hb.1, hb.2]

/-- A number is complete when a byte comes that does not continue it. -/
lemma step_number {p : PartialNumber} (hp : p.part.mayEnd = true) {b : UInt8} (hb : Apart b)
    (stack : List Frame) :
    step ⟨.number p, stack⟩ b =
      stepBetween (deliver (.number (p.literal none)) stack).mode
        (deliver (.number (p.literal none)) stack).stack b := by
  simp only [Apart, List.mem_cons, List.not_mem_nil, or_false] at hb
  have hdigit : isDigit b = false := by
    rcases hb with rfl | rfl | rfl | rfl | rfl | rfl | rfl <;> rfl
  have hadv : p.advance b = none := by
    cases hpart : p.part <;> rcases hb with rfl | rfl | rfl | rfl | rfl | rfl | rfl <;>
      simp [PartialNumber.advance, hpart, NumberPart.mayEnd] at hp ⊢
  simp [step, stepNumber, hdigit, hadv, hp]

/-- After a node inside a container it makes no difference whether it was a number. -/
lemma Reads.step_apart {rest : List Frame} (h : Reads n stack s)
    (hd : deliver n stack = ⟨.separator, rest⟩) {b : UInt8} (hb : Apart b) :
    step s b = stepBetween .separator rest b := by
  cases h with
  | delivered => rw [hd]; rfl
  | number hp hn => rw [step_number hp hb, ← hn, hd]

lemma Reads.comma_array (h : Reads n (.array es :: stack) s) :
    step s 0x2C = ⟨.nextElement, .array (n :: es) :: stack⟩ :=
  (h.step_apart rfl (by simp [Apart])).trans rfl

lemma Reads.close_array (h : Reads n (.array es :: stack) s) :
    step s 0x5D = deliver (.array (n :: es).reverse .closed) stack :=
  (h.step_apart rfl (by simp [Apart])).trans rfl

lemma Reads.comma_object (h : Reads n (.member ms k :: stack) s) :
    step s 0x2C = ⟨.nextKey, .object ((k, n) :: ms) :: stack⟩ :=
  (h.step_apart rfl (by simp [Apart])).trans rfl

lemma Reads.close_object (h : Reads n (.member ms k :: stack) s) :
    step s 0x7D = deliver (.object ((k, n) :: ms).reverse .closed) stack :=
  (h.step_apart rfl (by simp [Apart])).trans rfl

/-- At the end of the text a complete value is the whole of it. -/
lemma Reads.finish (h : Reads n [] s) : finish (finish s) = ⟨.done n, []⟩ := by
  cases h with
  | delivered => rfl
  | number hp hn => simp [Scan.finish, hp, hn, deliver]

/-! ### Blanks -/

/-- Where blanks make no difference. -/
def Idle : Mode → Prop
  | .text .. | .number .. | .word .. => False
  | _ => True

lemma isBlank_of_blanks (h : Blanks bs) : ∀ b ∈ bs, isBlank b = true := by
  intro b hb
  rcases h b hb with rfl | rfl | rfl | rfl <;> rfl

lemma step_blank (hm : Idle m) {b : UInt8} (hb : isBlank b = true) (stack : List Frame) :
    step ⟨m, stack⟩ b = ⟨m, stack⟩ := by
  cases m <;> first | exact hm.elim | simp [step, stepBetween, hb]

lemma run_blanks (hm : Idle m) (h : Blanks bs) (stack : List Frame) :
    run ⟨m, stack⟩ bs = ⟨m, stack⟩ := by
  have hblank := isBlank_of_blanks h
  clear h
  induction bs with
  | nil => rfl
  | cons b bs ih =>
    rw [run_cons, step_blank hm (hblank b (by simp)), ih fun c hc => hblank c (by simp [hc])]

lemma idle_deliver (n : Node) (stack : List Frame) : Idle (deliver n stack).mode := by
  rcases stack with _ | ⟨_ | _ | _ | _, _⟩ <;> trivial

/-- A blank completes a number, and otherwise it makes no difference after a value. -/
lemma Reads.blanks (h : Reads n stack s) (hbs : Blanks bs) : Reads n stack (run s bs) := by
  have hdelivered : run (deliver n stack) bs = deliver n stack :=
    run_blanks (idle_deliver n stack) hbs _
  cases h with
  | delivered =>
    exact .of_eq hdelivered
  | @number p hp hn =>
    rcases bs with _ | ⟨b, bs⟩
    · exact .number hp hn
    have hrest : Blanks bs := fun c hc => hbs c (by simp [hc])
    have hblank := isBlank_of_blanks hbs b (by simp)
    have hb : Apart b := by
      rcases hbs b (by simp) with rfl | rfl | rfl | rfl <;> simp [Apart]
    have hstep : step ⟨.number p, stack⟩ b = deliver n stack := by
      simp [step_number hp hb, ← hn, stepBetween, hblank]
    exact .of_eq (by rw [run_cons, hstep, run_blanks (idle_deliver n stack) hrest])

/-! ### Numbers -/

lemma toNat_digitByte {d : ℕ} (h : d < 10) : (digitByte d).toNat = 0x30 + d := by
  rw [digitByte, UInt8.toNat_ofNat', Nat.mod_eq_of_lt (by omega)]

lemma isDigit_digitByte {d : ℕ} (h : d < 10) :
    isDigit (digitByte d) = true ∧ digit (digitByte d) = d := by
  have hn := toNat_digitByte h
  constructor
  · simp [isDigit, UInt8.le_iff_toNat_le, hn]
    omega
  · rw [digit, hn]
    omega

/-- A digit other than zero begins a number. -/
lemma beginValue_digit {b : UInt8} (h : isDigit b = true) (h0 : b ≠ 0x30) (stack : List Frame) :
    Leading b ∧ beginValue b stack = ⟨.number ⟨.whole, false, [digit b], [], none⟩, stack⟩ := by
  have hb : 48 ≤ b.toNat ∧ b.toNat ≤ 57 := by
    simpa [isDigit, UInt8.le_iff_toNat_le] using h
  have hne {c : UInt8} (hc : c.toNat < 48 ∨ 57 < c.toNat) : b ≠ c := by
    rintro rfl; omega
  refine ⟨⟨?_, hne (by simp)⟩, ?_⟩
  · simp [isBlank, hne (c := 0x20) (by simp), hne (c := 0x0A) (by simp), hne (c := 0x0D) (by simp),
      hne (c := 0x09) (by simp)]
  · simp [beginValue, hne (c := 0x22) (by simp), hne (c := 0x7B) (by simp),
      hne (c := 0x5B) (by simp), hne (c := 0x2D) (by simp), h0, h]

/-- Digits are pushed on a number one by one. -/
lemma run_push (f : List ℕ → PartialNumber)
    (hf : ∀ ds d, (f ds).pushDigit d = some (f (d :: ds))) {ds : List ℕ} (h : ∀ d ∈ ds, d < 10)
    (acc : List ℕ) (stack : List Frame) :
    run ⟨.number (f acc), stack⟩ (ds.map digitByte) = ⟨.number (f (ds.reverse ++ acc)), stack⟩ := by
  induction ds generalizing acc with
  | nil => rfl
  | cons d ds ih =>
    obtain ⟨hd, hv⟩ := isDigit_digitByte (h d (by simp))
    have hstep : step ⟨.number (f acc), stack⟩ (digitByte d) = ⟨.number (f (d :: acc)), stack⟩ := by
      simp [step, stepNumber, hd, hv, hf]
    rw [List.map_cons, run_cons, hstep, ih fun c hc => h c (by simp [hc])]
    simp

/-- A number is complete, or a fraction or an exponent may follow. -/
def Whole (p : NumberPart) : Prop := p = .zero ∨ p = .whole

/-- The digits in front are read where a value may begin. -/
lemma run_whole (hm : Opens m) (negative : Bool) {d : ℕ} {ds : List ℕ} (hd : d < 10)
    (hds : ∀ e ∈ ds, e < 10) (hzero : d = 0 → ds = []) (stack : List Frame) :
    ∃ p, Whole p ∧
      run ⟨m, stack⟩ ((if negative then [0x2D] else []) ++ (d :: ds).map digitByte) =
        ⟨.number ⟨p, negative, (d :: ds).reverse, [], none⟩, stack⟩ := by
  obtain ⟨hdigit, hv⟩ := isDigit_digitByte hd
  have hpush := run_push (fun acc => ⟨.whole, negative, acc, [], none⟩) (fun _ _ => rfl) hds [d]
    stack
  have hfirst : run ⟨m, stack⟩ ((if negative then [0x2D] else []) ++ [digitByte d]) =
      ⟨.number ⟨if d = 0 then .zero else .whole, negative, [d], [], none⟩, stack⟩ := by
    cases negative
    · by_cases h0 : d = 0
      · subst h0
        cases hm <;> rfl
      · have hne : digitByte d ≠ 0x30 := by
          rw [ne_eq, ← UInt8.toNat_inj, toNat_digitByte hd]
          simpa using h0
        obtain ⟨hlead, hbegin⟩ := beginValue_digit hdigit hne stack
        simp [step_leading hm hlead, hbegin, hv, h0]
    · have hsign : step ⟨m, stack⟩ 0x2D = ⟨.number ⟨.sign, true, [], [], none⟩, stack⟩ := by
        cases hm <;> rfl
      have hnext : step ⟨.number ⟨.sign, true, [], [], none⟩, stack⟩ (digitByte d) =
          ⟨.number ⟨if d = 0 then .zero else .whole, true, [d], [], none⟩, stack⟩ := by
        simp [step, stepNumber, hdigit, PartialNumber.pushDigit, hv]
      rw [if_pos rfl, List.singleton_append, run_cons, hsign, run_cons, hnext, run_nil]
  rw [List.map_cons, List.append_cons, run_append, hfirst]
  by_cases h0 : d = 0
  · rw [hzero h0, if_pos h0]
    exact ⟨.zero, .inl rfl, rfl⟩
  · rw [if_neg h0, hpush]
    exact ⟨.whole, .inr rfl, by simp⟩

/-- A fraction, if there is one, follows them. -/
lemma run_fraction {p : NumberPart} (hp : Whole p) (negative : Bool) (whole : List ℕ)
    {fraction : List ℕ} (hf : ∀ e ∈ fraction, e < 10) (stack : List Frame) :
    ∃ q, (Whole q ∨ q = .fraction) ∧
      run ⟨.number ⟨p, negative, whole, [], none⟩, stack⟩
          (if fraction = [] then [] else 0x2E :: fraction.map digitByte) =
        ⟨.number ⟨q, negative, whole, fraction.reverse, none⟩, stack⟩ := by
  rcases fraction with _ | ⟨d, ds⟩
  · exact ⟨p, .inl hp, rfl⟩
  obtain ⟨hdigit, hv⟩ := isDigit_digitByte (hf d (by simp))
  have hpoint : step ⟨.number ⟨p, negative, whole, [], none⟩, stack⟩ 0x2E =
      ⟨.number ⟨.point, negative, whole, [], none⟩, stack⟩ := by
    rcases hp with rfl | rfl <;> rfl
  have hfirst : step ⟨.number ⟨.point, negative, whole, [], none⟩, stack⟩ (digitByte d) =
      ⟨.number ⟨.fraction, negative, whole, [d], none⟩, stack⟩ := by
    simp [step, stepNumber, hdigit, PartialNumber.pushDigit, hv]
  have hpush := run_push (fun acc => ⟨.fraction, negative, whole, acc, none⟩) (fun _ _ => rfl)
    (fun e he => hf e (List.mem_cons_of_mem d he)) [d] stack
  refine ⟨.fraction, .inr rfl, ?_⟩
  rw [if_neg (by simp), List.map_cons, run_cons, hpoint, run_cons, hfirst, hpush]
  simp

/-- An exponent, if there is one, is the last of a number. -/
lemma run_exponent {p : NumberPart} (hp : Whole p ∨ p = .fraction) (negative : Bool)
    (whole fraction : List ℕ) {exponent : Option (Bool × List ℕ)} {bs : List UInt8}
    (he : SpellsExponent exponent bs) (stack : List Frame) :
    ∃ q : NumberPart, q.mayEnd = true ∧
      run ⟨.number ⟨p, negative, whole, fraction, none⟩, stack⟩ bs =
        ⟨.number ⟨q, negative, whole, fraction, exponent.map fun e => (e.1, e.2.reverse)⟩,
          stack⟩ := by
  cases he with
  | none =>
    refine ⟨p, ?_, rfl⟩
    rcases hp with (rfl | rfl) | rfl <;> rfl
  | @some e sign neg ds he hs hne hds =>
    obtain ⟨d, ds, rfl⟩ := List.exists_cons_of_ne_nil hne
    obtain ⟨hdigit, hv⟩ := isDigit_digitByte (hds d (by simp))
    have hmark : step ⟨.number ⟨p, negative, whole, fraction, none⟩, stack⟩ e =
        ⟨.number ⟨.mark, negative, whole, fraction, none⟩, stack⟩ := by
      rcases hp with (rfl | rfl) | rfl <;> rcases he with rfl | rfl <;> rfl
    have hfirst : run ⟨.number ⟨.mark, negative, whole, fraction, none⟩, stack⟩
        (sign ++ [digitByte d]) =
        ⟨.number ⟨.exponent, negative, whole, fraction, some (neg, [d])⟩, stack⟩ := by
      simp only [List.mem_cons, Prod.mk.injEq, List.not_mem_nil, or_false] at hs
      rcases hs with ⟨rfl, rfl⟩ | ⟨rfl, rfl⟩ | ⟨rfl, rfl⟩
      · simp [step, stepNumber, hdigit, PartialNumber.pushDigit, hv]
      · have hsign : step ⟨.number ⟨.mark, negative, whole, fraction, none⟩, stack⟩ 0x2B =
            ⟨.number ⟨.markSign, negative, whole, fraction, some (false, [])⟩, stack⟩ := rfl
        rw [List.singleton_append, run_cons, hsign]
        simp [step, stepNumber, hdigit, PartialNumber.pushDigit, hv]
      · have hsign : step ⟨.number ⟨.mark, negative, whole, fraction, none⟩, stack⟩ 0x2D =
            ⟨.number ⟨.markSign, negative, whole, fraction, some (true, [])⟩, stack⟩ := rfl
        rw [List.singleton_append, run_cons, hsign]
        simp [step, stepNumber, hdigit, PartialNumber.pushDigit, hv]
    have hpush := run_push (fun acc => ⟨.exponent, negative, whole, fraction, some (neg, acc)⟩)
      (fun _ _ => rfl) (fun e he => hds e (List.mem_cons_of_mem d he)) [d] stack
    refine ⟨.exponent, rfl, ?_⟩
    rw [List.map_cons, List.cons_append, run_cons, hmark, List.append_cons, run_append, hfirst,
      hpush]
    simp

/-- A number is read where a value may begin. -/
lemma reads_number (hm : Opens m) {l : NumberLiteral} (h : SpellsNumber l bs)
    (stack : List Frame) : Reads (.number l) stack (run ⟨m, stack⟩ bs) := by
  cases h with
  | @intro negative d ds fraction exponent bs hd hds hzero hf he =>
    obtain ⟨p, hp, hwhole⟩ := run_whole hm negative hd hds hzero stack
    obtain ⟨q, hq, hfraction⟩ := run_fraction hp negative (d :: ds).reverse hf stack
    obtain ⟨r, hr, hexponent⟩ :=
      run_exponent hq negative (d :: ds).reverse fraction.reverse he stack
    rw [run_append, run_append, hwhole, hfraction, hexponent]
    refine .number hr ?_
    rcases exponent with _ | e <;> simp [PartialNumber.literal]

/-! ### Strings -/

lemma hexDigit?_of_spells {d : ℕ} {b : UInt8} (h : SpellsHex d b) : hexDigit? b = some d := by
  have hdecimal : ∀ d < 10, hexDigit? (digitByte d) = some d := by decide
  have hupper : ∀ d < 6, hexDigit? (UInt8.ofNat (0x41 + d)) = some (10 + d) := by decide
  have hlower : ∀ d < 6, hexDigit? (UInt8.ofNat (0x61 + d)) = some (10 + d) := by decide
  cases h with
  | decimal h => exact hdecimal _ h
  | upper h => exact hupper _ h
  | lower h => exact hlower _ h

lemma shortEscape?_of_mem : ∀ e ∈ shortEscapes, e.1 ≠ 0x75 ∧ shortEscape? e.1 = some e.2 := by
  simp [shortEscapes, shortEscape?]

/-- Four hexadecimal digits, the last one first, are read as their code unit. -/
lemma codeUnit?_of_spells {u v w x : ℕ} {a b c d : UInt8} (ha : SpellsHex u a) (hb : SpellsHex v b)
    (hc : SpellsHex w c) (hd : SpellsHex x d) :
    codeUnit? [d, c, b, a] = some (((u * 16 + v) * 16 + w) * 16 + x) := by
  simp [codeUnit?, hexDigit?_of_spells ha, hexDigit?_of_spells hb, hexDigit?_of_spells hc,
    hexDigit?_of_spells hd]

/-- A piece of a string is read as it is written. -/
lemma run_piece {p : Piece} (h : SpellsPiece p bs) (isKey : Bool) (pieces : List Piece)
    (stack : List Frame) :
    run ⟨.text isKey pieces .none, stack⟩ bs = ⟨.text isKey (p :: pieces) .none, stack⟩ := by
  cases h with
  | byte h =>
    obtain ⟨hq, hb, hc⟩ := h
    simp [step, stepText, hq, hb, hc]
  | short h =>
    obtain ⟨hu, hshort⟩ := shortEscape?_of_mem _ h
    simp [step, stepText, hu, hshort]
  | unit ha hb hc hd =>
    simp [step, stepText, codeUnit?_of_spells ha hb hc hd]

/-- The pieces of a string are read one by one. -/
lemma run_pieces {ps : List Piece} {parts : List (List UInt8)}
    (h : List.Forall₂ SpellsPiece ps parts) (isKey : Bool) (pieces : List Piece)
    (stack : List Frame) :
    run ⟨.text isKey pieces .none, stack⟩ parts.flatten =
      ⟨.text isKey (ps.reverse ++ pieces) .none, stack⟩ := by
  induction h generalizing pieces with
  | nil => rfl
  | cons hp _ ih =>
    rw [List.flatten_cons, run_append, run_piece hp, ih]
    simp

/-- A string is read up to its closing quote. -/
lemma run_string {t : StringLiteral} (h : SpellsString t bs) (isKey : Bool)
    (hopen : step s 0x22 = ⟨.text isKey [] .none, stack⟩) :
    run s bs = closeText isKey t stack ∧ t.broken = none := by
  cases h with
  | intro h =>
    refine ⟨?_, rfl⟩
    rw [List.cons_append, run_cons, hopen, run_append, run_pieces h, List.append_nil]
    simp [step, stepText]

/-! ### Values -/

/-- What the scan makes of what is written for a phrase, where that phrase may begin. -/
def Follows : Phrase → List UInt8 → Prop
  | .value n, bs | .element n, bs =>
    ∀ m stack, Opens m → Reads n stack (run ⟨m, stack⟩ bs)
  | .elements ns, bs => ∀ m es stack, Opens m →
    run ⟨m, .array es :: stack⟩ (bs ++ [0x5D]) = deliver (.array (es.reverse ++ ns) .closed) stack
  | .member k n, bs => ∀ m ms stack, m = .key ∨ m = .nextKey →
    Reads n (.member ms k :: stack) (run ⟨m, .object ms :: stack⟩ bs)
  | .members ms, bs => ∀ m ns stack, m = .key ∨ m = .nextKey →
    run ⟨m, .object ns :: stack⟩ (bs ++ [0x7D]) = deliver (.object (ns.reverse ++ ms) .closed) stack

lemma Opens.idle (hm : Opens m) : Idle m := by
  cases hm <;> trivial

/-- **What is written for a phrase is read as what it stands for**, by induction on how it is
written. -/
theorem follows_of_spells {p : Phrase} (h : Spells p bs) : Follows p bs := by
  induction h with
  | null | yes | no => exact fun m stack hm => .of_eq (by cases hm <;> rfl)
  | number h => exact fun m stack hm => reads_number hm h stack
  | @string s bs h =>
    intro m stack hm
    have hopen : step ⟨m, stack⟩ 0x22 = ⟨.text false [] .none, stack⟩ := by cases hm <;> rfl
    obtain ⟨hrun, hbroken⟩ := run_string h false hopen
    have hclose : closeText false s stack = deliver (.string s) stack := by
      simp [closeText, hbroken]
    exact .of_eq (hrun.trans hclose)
  | @emptyArray bs h =>
    intro m stack hm
    have hopen : step ⟨m, stack⟩ 0x5B = ⟨.element, .array [] :: stack⟩ := by cases hm <;> rfl
    rw [List.cons_append, run_cons, hopen, run_append, run_blanks Opens.element.idle h]
    exact .delivered
  | @array ns bs h ih =>
    intro m stack hm
    have hopen : step ⟨m, stack⟩ 0x5B = ⟨.element, .array [] :: stack⟩ := by cases hm <;> rfl
    rw [List.cons_append, run_cons, hopen, ih .element [] stack .element]
    exact .delivered
  | @emptyObject bs h =>
    intro m stack hm
    have hopen : step ⟨m, stack⟩ 0x7B = ⟨.key, .object [] :: stack⟩ := by cases hm <;> rfl
    have hidle : Idle .key := trivial
    rw [List.cons_append, run_cons, hopen, run_append, run_blanks hidle h]
    exact .delivered
  | @object ms bs h ih =>
    intro m stack hm
    have hopen : step ⟨m, stack⟩ 0x7B = ⟨.key, .object [] :: stack⟩ := by cases hm <;> rfl
    rw [List.cons_append, run_cons, hopen, ih .key [] stack (.inl rfl)]
    exact .delivered
  | @element n before bs after hb h ha ih =>
    intro m stack hm
    rw [run_append, run_append, run_blanks hm.idle hb]
    exact (ih m stack hm).blanks ha
  | @lastElement n bs h ih =>
    intro m es stack hm
    rw [run_append, run_cons, (ih m (.array es :: stack) hm).close_array, List.reverse_cons]
    rfl
  | @nextElement n ns bs cs h hs ih ihs =>
    intro m es stack hm
    rw [List.append_assoc, run_append, List.cons_append, run_cons,
      (ih m (.array es :: stack) hm).comma_array, ihs .nextElement (n :: es) stack .nextElement]
    simp
  | @member k n before ks after bs hb hk ha h ih =>
    intro m ms stack hm
    have hidle : Idle m := by rcases hm with rfl | rfl <;> trivial
    have hopen : step ⟨m, .object ms :: stack⟩ 0x22 =
        ⟨.text true [] .none, .object ms :: stack⟩ := by
      rcases hm with rfl | rfl <;> rfl
    obtain ⟨hrun, hbroken⟩ := run_string hk true hopen
    have hclose : closeText true k (.object ms :: stack) = ⟨.colon k, .object ms :: stack⟩ := by
      simp [closeText, hbroken]
    have hcolon : step ⟨.colon k, .object ms :: stack⟩ 0x3A =
        ⟨.value, .member ms k :: stack⟩ := rfl
    have hafter : Idle (.colon k) := trivial
    rw [run_append, run_append, run_append, run_blanks hidle hb, hrun, hclose,
      run_blanks hafter ha, run_cons, hcolon]
    exact ih .value (.member ms k :: stack) .value
  | @lastMember k n bs h ih =>
    intro m ns stack hm
    rw [run_append, run_cons, (ih m ns stack hm).close_object, List.reverse_cons]
    rfl
  | @nextMember k n ms bs cs h hs ih ihs =>
    intro m ns stack hm
    rw [List.append_assoc, run_append, List.cons_append, run_cons, (ih m ns stack hm).comma_object,
      ihs .nextKey ((k, n) :: ns) stack (.inr rfl)]
    simp

end Scan

/-- **A JSON text scans to the node that it spells.** -/
theorem IsText.scan {body : List UInt8} {n : Node} (h : IsText body n) :
    scan body = ⟨n, false⟩ := by
  have hread : Scan.Reads n [] (Scan.run Scan.start body) :=
    Scan.follows_of_spells h .value [] .value
  rw [Json.scan, hread.finish]
  rfl

/-! ### Results one after the other -/

lemma bind_eq_ok_iff {ε α β : Type} {x : Except ε α} {f : α → Except ε β} {b : β} :
    x >>= f = .ok b ↔ ∃ a, x = .ok a ∧ f a = .ok b := by
  rcases x with e | a <;> simp [bind, Except.bind]

lemma pass_eq_ok_iff {ε β : Type} {x : Except ε Unit} {y : Except ε β} {b : β} :
    (x >>= fun _ => y) = .ok b ↔ x = .ok () ∧ y = .ok b := by
  rw [bind_eq_ok_iff]
  exact ⟨fun ⟨(), h⟩ => h, fun h => ⟨(), h⟩⟩

/-! ### Passing over a text -/

section Skim

variable {k : StringLiteral} {n : Node} {ns : List Node} {ms : List (StringLiteral × Node)}

lemma Skim.string_eq_ok_iff : Skim.string k = .ok () ↔ k.broken = none := by
  rw [Skim.string]
  rcases k.broken with _ | b <;> simp

lemma skimElements_cons_iff :
    skimElements (n :: ns) = .ok () ↔ n.skim = .ok () ∧ skimElements ns = .ok () := by
  rw [skimElements, pass_eq_ok_iff]

lemma skimElements_iff : skimElements ns = .ok () ↔ ∀ n ∈ ns, n.skim = .ok () := by
  induction ns with
  | nil => simp [skimElements]
  | cons n ns ih => rw [skimElements_cons_iff, List.forall_mem_cons, ih]

lemma skimMembers_cons_iff : skimMembers ((k, n) :: ms) = .ok () ↔
    k.broken = none ∧ n.skim = .ok () ∧ skimMembers ms = .ok () := by
  rw [skimMembers, pass_eq_ok_iff, pass_eq_ok_iff, Skim.string_eq_ok_iff]

lemma skimMembers_iff :
    skimMembers ms = .ok () ↔ ∀ m ∈ ms, m.1.broken = none ∧ m.2.skim = .ok () := by
  induction ms with
  | nil => simp [skimMembers]
  | cons m ms ih => rw [skimMembers_cons_iff, List.forall_mem_cons, ih, and_assoc]

/-- A container is passed over just if it has its end and each part of it is passed over. -/
lemma skim_array_iff {stop : ArrayEnd} :
    (Node.array ns stop).skim = .ok () ↔ stop = .closed ∧ ∀ n ∈ ns, n.skim = .ok () := by
  rw [Node.skim, pass_eq_ok_iff, ← skimElements_iff]
  cases stop <;> simp [Skim.arrayEnd]

lemma skim_object_iff {stop : ObjectEnd} :
    (Node.object ms stop).skim = .ok () ↔ stop = .closed ∧ skimMembers ms = .ok () := by
  rw [Node.skim, pass_eq_ok_iff]
  cases stop <;> simp [Skim.objectEnd, pass_eq_ok_iff]

lemma skim_stray_ne_ok {i : Node} : (Node.stray ms i).skim ≠ .ok () := by
  simp [Node.skim, pass_eq_ok_iff]

end Skim

/-- Whether a reader that keeps nothing can pass over what stands for a phrase. -/
def Phrase.Skims : Phrase → Prop
  | .value n | .element n => n.skim = .ok ()
  | .elements ns => skimElements ns = .ok ()
  | .member k n => k.broken = none ∧ n.skim = .ok ()
  | .members ms => skimMembers ms = .ok ()

lemma SpellsString.broken {s : StringLiteral} {bs : List UInt8} (h : SpellsString s bs) :
    s.broken = none := by
  cases h
  rfl

lemma SpellsNumber.broken {l : NumberLiteral} {bs : List UInt8} (h : SpellsNumber l bs) :
    l.broken = none := by
  cases h
  rfl

/-- **Nothing that the grammar allows stops a reader that keeps nothing.** -/
theorem Spells.skims {p : Phrase} {bs : List UInt8} (h : Spells p bs) : p.Skims := by
  induction h with
  | null | yes | no | emptyArray | emptyObject => rfl
  | number h => simp [Phrase.Skims, Node.skim, Skim.number, h.broken]
  | string h => exact Skim.string_eq_ok_iff.mpr h.broken
  | array _ ih => exact skim_array_iff.mpr ⟨rfl, skimElements_iff.mp ih⟩
  | object _ ih => exact skim_object_iff.mpr ⟨rfl, ih⟩
  | element _ _ _ ih => exact ih
  | lastElement _ ih => exact skimElements_cons_iff.mpr ⟨ih, rfl⟩
  | nextElement _ _ ih ihs => exact skimElements_cons_iff.mpr ⟨ih, ihs⟩
  | member _ hk _ _ ih => exact ⟨hk.broken, ih⟩
  | lastMember _ ih => exact skimMembers_cons_iff.mpr ⟨ih.1, ih.2, rfl⟩
  | nextMember _ _ ih ihs => exact skimMembers_cons_iff.mpr ⟨ih.1, ih.2, ihs⟩

lemma IsText.skim {body : List UInt8} {n : Node} (h : IsText body n) : n.skim = .ok () :=
  Spells.skims h

end TeamSync.Json
