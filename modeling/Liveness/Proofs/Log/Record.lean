import Liveness.Probe.Batch
import Liveness.Proofs.Text.Quoted

/-!
# Records of good answers

Whatever a target puts into its headers, the record of its answer is one line, and it tells which
answer it is the record of: the number of the request, the status, and the headers with their names
and values, in order and as often as they came. Names and values are quoted, so nothing in them can
end a record, and nothing in them looks like the end of a header or the beginning of another field.
-/

namespace Liveness

open Numeral

/-! ## Numbers in a record -/

/-- A number ends at the blank after it. -/
theorem selfDelimiting_decimalChars : SelfDelimiting fun n => decimalChars n ++ [' '] := by
  have hinj : Function.Injective decimalChars := fun _ _ => numeral_inj (by decide) (by decide)
  refine selfDelimiting_stop hinj fun n hmem => ?_
  obtain ⟨d, hd⟩ := exists_digit?_of_mem_decimalChars hmem
  cases hd

theorem visible_of_mem_decimal {n : Nat} {c : Char} (hc : c ∈ (decimal n).toList) :
    isInvisible c = false := by
  rw [decimal, String.toList_ofList] at hc
  obtain ⟨d, hd, rfl⟩ := List.mem_map.mp hc
  exact isInvisible_digitChar (Nat.lt_of_lt_of_le (lt_of_mem_digitsIn (by decide) hd) (by decide))

theorem visible_of_all {text : String} (h : text.toList.all (fun c => !isInvisible c) = true)
    {c : Char} (hc : c ∈ text.toList) : isInvisible c = false :=
  Bool.not_eq_true' _ ▸ List.all_eq_true.mp h c hc

namespace Notice

/-! ## Headers -/

theorem toList_headerText (h : String × String) :
    (headerText h).toList
      = ['('] ++ ((quote h.1).toList ++ ([',', ' '] ++ (quote h.2).toList ++ [])) ++ [')'] := by
  simp [headerText]

theorem toList_headersText_nil : (headersText []).toList = ['[', ']'] := rfl

theorem toList_headersText_cons (h : String × String) (hs : List (String × String)) :
    (headersText (h :: hs)).toList = '[' :: ((headerText h).toList
      ++ (hs.flatMap (fun h => [',', ' '] ++ (headerText h).toList ++ []) ++ [']'])) := by
  induction hs generalizing h with
  | nil => simp [headersText]
  | cons h' hs ih =>
      have hfirst : (headersText (h :: h' :: hs)).toList
          = '[' :: ((headerText h).toList
            ++ ([',', ' '] ++ (headersText (h' :: hs)).toList.tail)) := by
        simp [headersText]
      rw [hfirst, ih h', List.flatMap_cons]
      simp only [List.tail_cons, List.append_assoc, List.nil_append]

theorem selfDelimiting_headerText : SelfDelimiting fun h => (headerText h).toList := by
  simp only [toList_headerText]
  exact (selfDelimiting_quote.pair (selfDelimiting_quote.frame [',', ' '] [])).frame ['('] [')']

theorem headersText_nil_ne_cons (h : String × String) (hs : List (String × String))
    (u v : List Char) : (headersText []).toList ++ u ≠ (headersText (h :: hs)).toList ++ v := by
  intro heq
  rw [toList_headersText_nil, toList_headersText_cons, toList_headerText] at heq
  exact absurd (List.cons.inj (List.cons.inj heq).2).1 (by decide)

theorem selfDelimiting_headersText : SelfDelimiting fun hs => (headersText hs).toList := by
  have hmore : SelfDelimiting fun hs : List (String × String) =>
      hs.flatMap (fun h => [',', ' '] ++ (headerText h).toList ++ []) ++ [']'] := by
    refine (selfDelimiting_headerText.frame [',', ' '] []).sequence fun h u v heq => ?_
    exact absurd (List.cons.inj heq).1 (by decide)
  intro as bs u v heq
  cases as with
  | nil =>
      cases bs with
      | nil => exact ⟨rfl, List.append_cancel_left heq⟩
      | cons b bs => exact absurd heq (headersText_nil_ne_cons b bs u v)
  | cons a as =>
      cases bs with
      | nil => exact absurd heq.symm (headersText_nil_ne_cons a as v u)
      | cons b bs =>
          simp only [toList_headersText_cons] at heq
          obtain ⟨hpair, hrest⟩ := selfDelimiting_headerText.pair hmore (a, as) (b, bs) u v
            (List.cons.inj heq).2
          obtain ⟨rfl, rfl⟩ := Prod.mk.inj hpair
          exact ⟨rfl, hrest⟩

theorem visible_of_mem_headerText {h : String × String} {c : Char}
    (hc : c ∈ (headerText h).toList) : isInvisible c = false := by
  rw [toList_headerText, toList_quote, toList_quote] at hc
  simp only [List.mem_append, List.mem_cons, List.not_mem_nil, or_false] at hc
  rcases hc with (rfl | hname | ((rfl | rfl) | hvalue)) | rfl
  · decide
  · exact Quoted.visible_of_mem_chars hname
  · decide
  · decide
  · exact Quoted.visible_of_mem_chars hvalue
  · decide

theorem visible_of_mem_headersText {hs : List (String × String)} {c : Char}
    (hc : c ∈ (headersText hs).toList) : isInvisible c = false := by
  cases hs with
  | nil => exact visible_of_all (by decide +kernel) hc
  | cons h hs =>
      rw [toList_headersText_cons] at hc
      simp only [List.mem_cons, List.mem_append, List.mem_flatMap, List.not_mem_nil,
        or_false] at hc
      rcases hc with rfl | hfirst | ⟨h', -, (rfl | rfl) | hnext⟩ | rfl
      · decide
      · exact visible_of_mem_headerText hfirst
      · decide
      · decide
      · exact visible_of_mem_headerText hnext
      · decide

/-! ## Records -/

theorem record_goodAnswer (seq : Nat) (r : Response) :
    (goodAnswer seq r).record = "INFO probe_core::prober: response seq=" ++ decimal seq
      ++ (" " ++ "status=") ++ decimal r.status.toNat
      ++ (" " ++ "headers=") ++ headersText r.headers := by
  have hfront : "INFO" ++ " " ++ "probe_core::prober" ++ ": " ++ "response" ++ " " ++ "seq" ++ "="
      = "INFO probe_core::prober: response seq=" := by decide +kernel
  have hstatus : "status" ++ "=" = "status=" := by decide +kernel
  have hheaders : "headers" ++ "=" = "headers=" := by decide +kernel
  rw [← hfront, ← hstatus, ← hheaders]
  simp only [record, fields, level, origin, message, Level.name, Origin.name, List.map_cons,
    List.map_nil, String.join_cons, String.join_nil, String.append_empty, String.append_assoc]

/-- Two numbers and some headers, each after a text that is always the same. -/
theorem selfDelimiting_answer (front status headers : String) :
    SelfDelimiting fun a : Nat × Nat × List (String × String) =>
      (front ++ decimal a.1 ++ (" " ++ status) ++ decimal a.2.1 ++ (" " ++ headers)
        ++ headersText a.2.2).toList := by
  have hlast := selfDelimiting_decimalChars.pair
    (selfDelimiting_headersText.frame headers.toList [])
  have hall := (selfDelimiting_decimalChars.pair (hlast.frame status.toList [])).frame
    front.toList []
  intro a b u v h
  refine hall a b u v ?_
  simpa [decimal] using h

theorem visible_of_mem_goodAnswer {seq : Nat} {r : Response} {c : Char}
    (hc : c ∈ (goodAnswer seq r).record.toList) : isInvisible c = false := by
  rw [record_goodAnswer] at hc
  simp only [String.toList_append, List.mem_append] at hc
  rcases hc with ((((hc | hc) | hc | hc) | hc) | hc | hc) | hc
  · exact visible_of_all (by decide +kernel) hc
  · exact visible_of_mem_decimal hc
  · exact visible_of_all (by decide +kernel) hc
  · exact visible_of_all (by decide +kernel) hc
  · exact visible_of_mem_decimal hc
  · exact visible_of_all (by decide +kernel) hc
  · exact visible_of_all (by decide +kernel) hc
  · exact visible_of_mem_headersText hc

theorem goodAnswer_inj {seq seq' : Nat} {r r' : Response}
    (h : (goodAnswer seq r).record = (goodAnswer seq' r').record) :
    seq = seq' ∧ r.status = r'.status ∧ r.headers = r'.headers := by
  rw [record_goodAnswer, record_goodAnswer] at h
  have heq : (seq, r.status.toNat, r.headers) = (seq', r'.status.toNat, r'.headers) :=
    (selfDelimiting_answer _ _ _).injective (congrArg String.toList h)
  simp only [Prod.mk.injEq, UInt16.toNat_inj] at heq
  exact heq

/-- Whatever its headers are, a good answer is recorded on one line, in characters that can all be
seen, and two good answers have the same record only if everything recorded of them is the same. -/
theorem good_records_told_apart (seq seq' : Nat) (r r' : Response) :
    '\n' ∉ (Batch.outcomeNotice seq (.good r)).record.toList
      ∧ '\r' ∉ (Batch.outcomeNotice seq (.good r)).record.toList
      ∧ (∀ c ∈ (Batch.outcomeNotice seq (.good r)).record.toList, isInvisible c = false)
      ∧ ((Batch.outcomeNotice seq (.good r)).record
            = (Batch.outcomeNotice seq' (.good r')).record
          ↔ seq = seq' ∧ r.status = r'.status ∧ r.headers = r'.headers) := by
  have hvisible : ∀ c ∈ (goodAnswer seq r).record.toList, isInvisible c = false :=
    fun _ => visible_of_mem_goodAnswer
  refine ⟨fun hfeed => ?_, fun hreturn => ?_, hvisible, goodAnswer_inj, ?_⟩
  · exact absurd (hvisible _ hfeed) (by decide)
  · exact absurd (hvisible _ hreturn) (by decide)
  · rintro ⟨rfl, hstatus, hheaders⟩
    simp only [Batch.outcomeNotice, record_goodAnswer, hstatus, hheaders]

end Notice
end Liveness
