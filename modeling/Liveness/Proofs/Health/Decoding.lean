import Mathlib.Data.List.Perm.Basic
import Liveness.Health.Reader
import Liveness.Proofs.Json.Value

/-!
# Health from any object

A health is read from the text of an object if, of its members, exactly one has the key of the
status and holds a string, and exactly one has the key of the hit and holds a numeral that fits 64
bits. Nothing else matters: not how the text is spaced, how its strings are written, in which order
its members stand, or what the other members hold.

The reader goes through the members once and keeps what it has read. So for the members still to
come it counts whether the value is there already and comes no more, or is not there and comes
once; this is shown member by member, with any values read before.
-/

namespace Liveness

namespace Health

open Json Token Numeral

/-! ## What an object has to hold -/

/-- The values of the members with some key, in their order. -/
def valuesAt (key : String) (ms : List (String × Value)) : List Value :=
  (ms.filter (·.1 = key)).map (·.2)

def IsStatus (v : Value) (status : String) : Prop := v = .string status

/-- A number of which only digits are written, and which fits 64 bits. -/
def IsHit (v : Value) (hit : UInt64) : Prop :=
  ∃ literal, v = .number literal ∧ IsNumeral literal hit.toNat

variable {α : Type} {stands : Value → α → Prop} {had : Option α} {a : α} {v : Value}
  {vs : List Value} {m m' : Members} {key : String} {ms ms' : List (String × Value)}

/-- There is one value, and what it stands for. -/
def Sole (stands : Value → α → Prop) (vs : List Value) (a : α) : Prop :=
  ∃ v, vs = [v] ∧ stands v a

/-- What was read before is all there is, or nothing was read before and one value comes. -/
def Settled (stands : Value → α → Prop) (had : Option α) (vs : List Value) (a : α) : Prop :=
  (had = some a ∧ vs = []) ∨ (had = none ∧ Sole stands vs a)

theorem settled_none : Settled stands none vs a ↔ Sole stands vs a := by
  simp [Settled]

theorem settled_nil : Settled stands had [] a ↔ had = some a := by
  simp [Settled, Sole]

theorem settled_cons : Settled stands had (v :: vs) a ↔
    had = none ∧ ∃ b, stands v b ∧ Settled stands (some b) vs a := by
  constructor
  · rintro (⟨-, ⟨⟩⟩ | ⟨rfl, w, hvs, hstands⟩)
    obtain ⟨rfl, rfl⟩ := List.cons.inj hvs
    exact ⟨rfl, a, hstands, .inl ⟨rfl, rfl⟩⟩
  · rintro ⟨rfl, b, hstands, ⟨hb, rfl⟩ | ⟨⟨⟩, -⟩⟩
    obtain rfl := Option.some.inj hb
    exact .inr ⟨rfl, v, rfl, hstands⟩

theorem valuesAt_cons_self (key : String) (v : Value) (ms : List (String × Value)) :
    valuesAt key ((key, v) :: ms) = v :: valuesAt key ms := by
  simp [valuesAt]

theorem valuesAt_cons_of_ne {key other : String} (h : other ≠ key) (v : Value)
    (ms : List (String × Value)) : valuesAt key ((other, v) :: ms) = valuesAt key ms := by
  simp [valuesAt, h]

/-! ## Values -/

section Values

variable {text : List Char} {ts rest : List Token}

theorem readStatus_eq_ok_iff (h : Written (.item v) text) {status : String} :
    readStatus (v.tokens ++ ts) = .ok (status, rest) ↔ IsStatus v status ∧ ts = rest := by
  cases h with
  | item _ h _ =>
      cases h with
      | string _ => simp [Value.tokens, readStatus, IsStatus]
      | number h =>
          obtain ⟨number, halone, -⟩ := lex_number h
          simp [Value.tokens, halone, readStatus, IsStatus]
      | _ => simp [Value.tokens, readStatus, IsStatus]

theorem readHit_number {number : Number} (hfit : ∀ n, number = .natural n → n ≤ wordLimit)
    {hit : UInt64} :
    readHit (.number number :: ts) = .ok (hit, rest)
      ↔ number = .natural hit.toNat ∧ ts = rest := by
  cases number with
  | natural n =>
      have hlt : n < UInt64.size := Nat.lt_of_le_of_lt (hfit n rfl) (by decide)
      have hword : UInt64.ofNat n = hit ↔ n = hit.toNat := by
        constructor
        · rintro rfl
          exact (UInt64.toNat_ofNat_of_lt' hlt).symm
        · rintro rfl
          exact UInt64.ofNat_toNat
      simp only [readHit, Except.ok.injEq, Prod.mk.injEq, Number.natural.injEq, hword]
  | _ => simp [readHit]

theorem readHit_eq_ok_iff (h : Written (.item v) text) {hit : UInt64} :
    readHit (v.tokens ++ ts) = .ok (hit, rest) ↔ IsHit v hit ∧ ts = rest := by
  cases h with
  | item _ h _ =>
      cases h with
      | number h =>
          obtain ⟨number, halone, -, hnatural⟩ := lex_number h
          have hfit : hit.toNat ≤ wordLimit := Nat.le_sub_one_of_lt hit.toNat_lt_size
          rw [Value.tokens, halone, List.singleton_append,
            readHit_number fun n hn => ((hnatural n).mp hn).2, hnatural]
          simp [IsHit, hfit]
      | _ => simp [Value.tokens, readHit, IsHit]

end Values

/-! ## Members -/

/-- What is kept before a member is read, and after it. -/
inductive Takes (m : Members) (key : String) (v : Value) : Members → Prop where
  | status {status : String} (hkey : key = statusKey) (hnone : m.status = none)
      (h : IsStatus v status) : Takes m key v { m with status := some status }
  | hit {hit : UInt64} (hkey : key = hitKey) (hnone : m.hit = none) (h : IsHit v hit) :
      Takes m key v { m with hit := some hit }
  | other (hstatus : key ≠ statusKey) (hhit : key ≠ hitKey) : Takes m key v m

theorem hitKey_ne_statusKey : hitKey ≠ statusKey := by decide

theorem takes_status : Takes m statusKey v m' ↔
    m.status = none ∧ ∃ status, IsStatus v status ∧ { m with status := some status } = m' := by
  constructor
  · intro h
    cases h with
    | status _ hnone h => exact ⟨hnone, _, h, rfl⟩
    | hit hkey => exact absurd hkey.symm hitKey_ne_statusKey
    | other hstatus => exact absurd rfl hstatus
  · rintro ⟨hnone, status, h, rfl⟩
    exact .status rfl hnone h

theorem takes_hit : Takes m hitKey v m' ↔
    m.hit = none ∧ ∃ hit, IsHit v hit ∧ { m with hit := some hit } = m' := by
  constructor
  · intro h
    cases h with
    | status hkey => exact absurd hkey hitKey_ne_statusKey
    | hit _ hnone h => exact ⟨hnone, _, h, rfl⟩
    | other _ hhit => exact absurd rfl hhit
  · rintro ⟨hnone, hit, h, rfl⟩
    exact .hit rfl hnone h

theorem takes_other (hstatus : key ≠ statusKey) (hhit : key ≠ hitKey) :
    Takes m key v m' ↔ m = m' := by
  constructor
  · intro h
    cases h with
    | status hkey => exact absurd hkey hstatus
    | hit hkey => exact absurd hkey hhit
    | other => rfl
  · rintro rfl
    exact .other hstatus hhit

theorem readMember_status (ts : List Token) : m.readMember statusKey (.mark .colon :: ts)
    = if m.status.isSome then .error (.duplicate statusKey)
      else (readStatus ts).map fun p => ({ m with status := some p.1 }, p.2) := by
  rw [Members.readMember, if_pos rfl, afterColon]
  dsimp only
  cases readStatus ts <;> rfl

theorem readMember_hit (ts : List Token) : m.readMember hitKey (.mark .colon :: ts)
    = if m.hit.isSome then .error (.duplicate hitKey)
      else (readHit ts).map fun p => ({ m with hit := some p.1 }, p.2) := by
  rw [Members.readMember, if_neg hitKey_ne_statusKey, if_pos rfl, afterColon]
  dsimp only
  cases readHit ts <;> rfl

/-- A value that is read is put to what is kept. -/
theorem map_put_eq_ok_iff {read : List Token → Except Fault (α × List Token)}
    {ts rest : List Token}
    (hread : ∀ a rest, read (v.tokens ++ ts) = .ok (a, rest) ↔ stands v a ∧ ts = rest)
    (put : α → Members) :
    (read (v.tokens ++ ts)).map (fun p => (put p.1, p.2)) = .ok (m', rest)
      ↔ (∃ a, stands v a ∧ put a = m') ∧ ts = rest := by
  rw [map_eq_ok_iff]
  constructor
  · rintro ⟨⟨a, rest⟩, hok, heq⟩
    obtain ⟨hput, rfl⟩ := Prod.mk.inj heq
    obtain ⟨hstands, hrest⟩ := (hread a rest).mp hok
    exact ⟨⟨a, hstands, hput⟩, hrest⟩
  · rintro ⟨⟨a, hstands, rfl⟩, rfl⟩
    exact ⟨(a, ts), (hread a ts).mpr ⟨hstands, rfl⟩, rfl⟩

/-- What is read of a member. -/
theorem readMember_eq_ok_iff {text : List Char} {ts rest : List Token}
    (h : Written (.item v) text) :
    m.readMember key (.mark .colon :: (v.tokens ++ ts)) = .ok (m', rest)
      ↔ Takes m key v m' ∧ ts = rest := by
  by_cases hstatus : key = statusKey
  · subst hstatus
    rw [readMember_status, takes_status]
    cases hm : m.status with
    | some _ => simp
    | none =>
        rw [Option.isSome_none, if_neg Bool.false_ne_true, eq_self, true_and]
        exact map_put_eq_ok_iff (fun _ _ => readStatus_eq_ok_iff h)
          fun status => { m with status := some status }
  by_cases hhit : key = hitKey
  · subst hhit
    rw [readMember_hit, takes_hit]
    cases hm : m.hit with
    | some _ => simp
    | none =>
        rw [Option.isSome_none, if_neg Bool.false_ne_true, eq_self, true_and]
        exact map_put_eq_ok_iff (fun _ _ => readHit_eq_ok_iff h)
          fun hit => { m with hit := some hit }
  · rw [takes_other hstatus hhit, Members.readMember, if_neg hstatus, if_neg hhit, skipMember,
      skipValue_tokens h]
    simp

/-- What is needed of a member and of those after it is what is needed of all of them. -/
theorem exists_takes_settled {health : Health} :
    (∃ m', Takes m key v m' ∧ Settled IsStatus m'.status (valuesAt statusKey ms) health.status
        ∧ Settled IsHit m'.hit (valuesAt hitKey ms) health.hit)
      ↔ Settled IsStatus m.status (valuesAt statusKey ((key, v) :: ms)) health.status
        ∧ Settled IsHit m.hit (valuesAt hitKey ((key, v) :: ms)) health.hit := by
  by_cases hstatus : key = statusKey
  · subst hstatus
    rw [valuesAt_cons_self, valuesAt_cons_of_ne hitKey_ne_statusKey.symm, settled_cons]
    simp only [takes_status]
    constructor
    · rintro ⟨-, ⟨hnone, status, h, rfl⟩, hrest, hhit⟩
      exact ⟨⟨hnone, status, h, hrest⟩, hhit⟩
    · rintro ⟨⟨hnone, status, h, hrest⟩, hhit⟩
      exact ⟨_, ⟨hnone, status, h, rfl⟩, hrest, hhit⟩
  by_cases hhit : key = hitKey
  · subst hhit
    rw [valuesAt_cons_self, valuesAt_cons_of_ne hitKey_ne_statusKey, settled_cons]
    simp only [takes_hit]
    constructor
    · rintro ⟨-, ⟨hnone, hit, h, rfl⟩, hstatus, hrest⟩
      exact ⟨hstatus, hnone, hit, h, hrest⟩
    · rintro ⟨hstatus, hnone, hit, h, hrest⟩
      exact ⟨_, ⟨hnone, hit, h, rfl⟩, hstatus, hrest⟩
  · rw [valuesAt_cons_of_ne hstatus, valuesAt_cons_of_ne hhit]
    simp only [takes_other hstatus hhit, exists_eq_left']

/-! ## Objects -/

theorem conclude_eq_ok_iff {health : Health} :
    m.conclude = .ok health ↔ m.status = some health.status ∧ m.hit = some health.hit := by
  obtain ⟨_ | status, _ | hit⟩ := m
  iterate 3 simp [Members.conclude]
  obtain ⟨status', hit'⟩ := health
  simp [Members.conclude]

/-- Members to the end of their object are read as a health exactly if what was read before and
they together settle its two values. -/
theorem readMore_eq_ok_iff (h : ∀ member ∈ ms, ∃ text, Written (.item member.2) text)
    {health : Health} :
    readMore m (membersTokens ms ++ [.mark .closeObject]) = .ok (health, [])
      ↔ Settled IsStatus m.status (valuesAt statusKey ms) health.status
        ∧ Settled IsHit m.hit (valuesAt hitKey ms) health.hit := by
  induction ms generalizing m with
  | nil =>
      rw [membersTokens, List.nil_append, readMore, map_eq_ok_iff]
      have hnone : ∀ key, valuesAt key [] = [] := fun _ => rfl
      rw [hnone, hnone, settled_nil, settled_nil, ← conclude_eq_ok_iff]
      simp
  | cons member ms ih =>
      obtain ⟨key, v⟩ := member
      obtain ⟨⟨text, hv⟩, hms⟩ := List.forall_mem_cons.mp h
      rw [← exists_takes_settled, membersTokens, List.cons_append, List.cons_append,
        List.cons_append, List.append_assoc, readMore]
      constructor
      · intro hread
        split at hread
        · cases hread
        · rename_i m' rest hmember
          obtain ⟨htakes, rfl⟩ := (readMember_eq_ok_iff hv).mp hmember
          exact ⟨m', htakes, (ih hms).mp hread⟩
      · rintro ⟨m', htakes, hsettled⟩
        have hmember : m.readMember key
            (.mark .colon :: (v.tokens ++ (membersTokens ms ++ [.mark .closeObject])))
              = .ok (m', membersTokens ms ++ [.mark .closeObject]) :=
          (readMember_eq_ok_iff hv).mpr ⟨htakes, rfl⟩
        split
        · rename_i hfault
          cases hfault.symm.trans hmember
        · rename_i hread
          obtain ⟨rfl, rfl⟩ := Prod.mk.inj (Except.ok.inj (hread.symm.trans hmember))
          exact (ih hms).mpr hsettled

theorem readObject_eq (ms : List (String × Value)) :
    readObject ((membersTokens ms).tail ++ [.mark .closeObject])
      = readMore Members.none (membersTokens ms ++ [.mark .closeObject]) := by
  cases ms with
  | nil =>
      rw [membersTokens, List.tail_nil, List.nil_append, readMore]
      rfl
  | cons member ms =>
      obtain ⟨key, v⟩ := member
      simp only [membersTokens, List.tail_cons, List.cons_append]
      rw [readMore, readObject]
      cases Members.none.readMember key
        (.mark .colon :: (v.tokens ++ membersTokens ms ++ [.mark .closeObject])) <;> rfl

theorem ofTokens_eq_ok_iff {ts : List Token} {health : Health} :
    ofTokens ts = .ok health ↔ readValue ts = .ok (health, []) := by
  unfold ofTokens
  split <;> rename_i hread <;> simp [hread]

/-- From which objects a health is read, and which one. -/
theorem parse_object_eq_ok_iff {text : String} (h : IsObject text ms) {health : Health} :
    parse text = .ok health ↔ Sole IsStatus (valuesAt statusKey ms) health.status
      ∧ Sole IsHit (valuesAt hitKey ms) health.hit := by
  rw [parse, lex_of_isObject h, ofTokens_eq_ok_iff, Value.tokens, readValue, readObject_eq,
    readMore_eq_ok_iff (written_of_isObject h), ← settled_none, ← settled_none]
  rfl

/-! ## What does not matter -/

/-- A member with this key is looked at. -/
def IsKnown (key : String) : Prop := key = statusKey ∨ key = hitKey

instance : DecidablePred IsKnown := fun key =>
  inferInstanceAs (Decidable (key = statusKey ∨ key = hitKey))

/-- The members that are looked at, in their order. -/
def knownMembers (ms : List (String × Value)) : List (String × Value) :=
  ms.filter fun member => IsKnown member.1

theorem valuesAt_knownMembers (hkey : IsKnown key) (ms : List (String × Value)) :
    valuesAt key (knownMembers ms) = valuesAt key ms := by
  rw [valuesAt, valuesAt, knownMembers, List.filter_filter]
  refine congrArg (List.map _) (List.filter_congr fun member _ => ?_)
  by_cases hmember : member.1 = key
  · simp [hmember, hkey]
  · simp [hmember]

theorem valuesAt_perm (hkey : IsKnown key) (h : (knownMembers ms).Perm (knownMembers ms')) :
    (valuesAt key ms).Perm (valuesAt key ms') := by
  rw [← valuesAt_knownMembers hkey ms, ← valuesAt_knownMembers hkey ms']
  exact (h.filter _).map _

theorem sole_congr {vs vs' : List Value} (h : vs.Perm vs') :
    Sole stands vs a ↔ Sole stands vs' a := by
  constructor
  · rintro ⟨v, rfl, hv⟩
    exact ⟨v, List.perm_singleton.mp h.symm, hv⟩
  · rintro ⟨v, rfl, hv⟩
    exact ⟨v, List.perm_singleton.mp h, hv⟩

/-- From the text of an object a health is read exactly if the object has one status, a string, and
one hit, a numeral that fits 64 bits, and then these are read; otherwise a fault is reported. So the
order of the members, the members that are not looked at, white space and ways to write a string
make no difference. -/
theorem objects_decoded {text : String} (h : IsObject text ms) :
    (∀ health, parse text = .ok health ↔ Sole IsStatus (valuesAt statusKey ms) health.status
        ∧ Sole IsHit (valuesAt hitKey ms) health.hit)
      ∧ ((∃ fault, parse text = .error fault) ↔
        ¬ ((∃ status, Sole IsStatus (valuesAt statusKey ms) status)
          ∧ ∃ hit, Sole IsHit (valuesAt hitKey ms) hit))
      ∧ ∀ text' ms', IsObject text' ms' → (knownMembers ms).Perm (knownMembers ms') →
        ∀ health, parse text = .ok health ↔ parse text' = .ok health := by
  refine ⟨fun _ => parse_object_eq_ok_iff h, ?_, fun text' ms' h' hperm health => ?_⟩
  · constructor
    · rintro ⟨fault, hfault⟩ ⟨⟨status, hstatus⟩, hit, hhit⟩
      have hok : parse text = .ok ⟨status, hit⟩ := (parse_object_eq_ok_iff h).mpr ⟨hstatus, hhit⟩
      cases hfault.symm.trans hok
    · intro hnone
      cases hparse : parse text with
      | error fault => exact ⟨fault, rfl⟩
      | ok health =>
          obtain ⟨hstatus, hhit⟩ := (parse_object_eq_ok_iff h).mp hparse
          exact absurd ⟨⟨_, hstatus⟩, _, hhit⟩ hnone
  · rw [parse_object_eq_ok_iff h, parse_object_eq_ok_iff h',
      sole_congr (valuesAt_perm (.inl rfl) hperm), sole_congr (valuesAt_perm (.inr rfl) hperm)]

/-- White space, a key with an escape, and a member that is not looked at and holds a hit. -/
def roomy : String :=
  " \x7b \"hit\" : 7 ,\"more\":[\x7b\"hit\":null\x7d],\"\\u0073tatus\":\"up\"\x7d"

def roomyMembers : List (String × Value) :=
  [(hitKey, .number ['7']), ("more", .list [.object [(hitKey, .word .null)]]),
    (statusKey, .string "up")]

theorem roomy_isObject : IsObject roomy roomyMembers := by
  have hspace : IsBlank [' '] := List.forall_mem_singleton.mpr (.inl rfl)
  have hnone : IsBlank [] := fun _ => List.not_mem_nil.elim
  have hzero : IsHex '0' 0 := .small (d := 0) (by decide)
  have hcode : IsCode ['0', '0', '7', '3'] 's'.toNat :=
    .mk hzero hzero (.small (d := 7) (by decide)) (.small (d := 3) (by decide))
  have hkey : statusKey.toList = 's' :: "tatus".toList := by decide +kernel
  have hpieces := ArePieces.cons (.code hcode) (arePieces_escape "tatus".toList)
  rw [← hkey] at hpieces
  have hseven : IsNumber ['7'] := isNumber_of_whole
    (.digits (by decide) ⟨List.cons_ne_nil _ _, List.forall_mem_singleton.mpr rfl⟩)
  have hhit := Written.member hspace (isString_stringChars hitKey) hspace
    (.item hspace (.number hseven) hspace)
  have hinner := Written.member hnone (isString_stringChars hitKey) hnone
    (.item hnone (.word .null) hnone)
  have hmore := Written.member hnone (isString_stringChars "more") hnone
    (.item hnone (.list (.item hnone (.object hinner .noMembers) hnone) .noItems) hnone)
  have hstatus := Written.member hnone (.mk hpieces) hnone
    (.item hnone (.string (isString_stringChars "up")) hnone)
  have hobject := Written.item hspace (.object hhit (.members hmore (.members hstatus .noMembers)))
    hnone
  refine Eq.mp (congrArg (Written _) ?_) hobject
  decide +kernel

/-- The order, the spacing, the escape and the other member make no difference. -/
theorem roomy_decoded : IsObject roomy roomyMembers ∧ parse roomy = .ok ⟨"up", 7⟩ := by
  have hother : "more" ≠ statusKey ∧ "more" ≠ hitKey := by decide
  refine ⟨roomy_isObject, ((objects_decoded roomy_isObject).1 _).mpr ⟨?_, ?_⟩⟩
  · rw [roomyMembers, valuesAt_cons_of_ne hitKey_ne_statusKey, valuesAt_cons_of_ne hother.1,
      valuesAt_cons_self]
    exact ⟨_, rfl, rfl⟩
  · rw [roomyMembers, valuesAt_cons_self, valuesAt_cons_of_ne hother.2,
      valuesAt_cons_of_ne hitKey_ne_statusKey.symm]
    exact ⟨_, rfl, _, rfl, by decide⟩

end Health

end Liveness
