import Liveness.Proofs.Text.Casing

/-!
# Looking up headers

A header is looked up by its name, up to the case of ASCII letters, and the first entry that has
the name gives the value. Which entries have a name does not change when they or the name are
written with other ASCII letters of the two cases, so only the order of the entries and what is
beyond ASCII count.

The search is settled by the place where it stops: an entry that has the name, with entries before
it that do not. What stands behind that place is never looked at, and what does not have the name
can be put in or taken out. Where no two names match, there is only one such place, and the order
does not count either.
-/

namespace Liveness

namespace Response

variable {r r' : Response} {name name' v : String} {hs hs' : List (String × String)}
  {before after : List (String × String)} {h : String × String}

/-! ## Where the search stops -/

theorem header?_eq_some_iff : r.header? name = some v ↔ ∃ before key after,
    r.headers = before ++ (key, v) :: after ∧ Recased key name
      ∧ ∀ h ∈ before, ¬ Recased h.1 name := by
  rw [header?, Option.map_eq_some_iff]
  constructor
  · rintro ⟨⟨key, _⟩, hfind, rfl⟩
    obtain ⟨hname, before, after, hheaders, hbefore⟩ := List.find?_eq_some_iff_append.mp hfind
    refine ⟨before, key, after, hheaders, sameName_iff_recased.mp hname, fun h hmem hrecased => ?_⟩
    have hnot := hbefore h hmem
    rw [sameName_iff_recased.mpr hrecased] at hnot
    cases hnot
  · rintro ⟨before, key, after, hheaders, hname, hbefore⟩
    refine ⟨(key, v), List.find?_eq_some_iff_append.mpr
      ⟨sameName_iff_recased.mpr hname, before, after, hheaders, fun h hmem => ?_⟩, rfl⟩
    rw [Bool.not_eq_true', ← Bool.not_eq_true]
    exact fun hsame => hbefore h hmem (sameName_iff_recased.mp hsame)

theorem header?_eq_none_iff :
    r.header? name = none ↔ ∀ h ∈ r.headers, ¬ Recased h.1 name := by
  simp only [header?, Option.map_eq_none_iff, List.find?_eq_none, sameName_iff_recased]

/-! ## Other letters, more entries, another order -/

/-- Entries that differ at most in the case of ASCII letters of their names. -/
def SameEntry (h h' : String × String) : Prop := Recased h.1 h'.1 ∧ h.2 = h'.2

theorem header?_recased (hname : Recased name name')
    (hheaders : List.Forall₂ SameEntry r.headers r'.headers) :
    r.header? name = r'.header? name' := by
  rw [header?, header?]
  generalize r.headers = hs at hheaders
  generalize r'.headers = hs' at hheaders
  induction hheaders with
  | nil => rfl
  | @cons h h' _ _ hentry _ ih =>
      have hsame : sameName h.1 name = sameName h'.1 name' := sameName_congr hentry.1 hname
      rw [List.find?_cons, List.find?_cons, hsame]
      cases sameName h'.1 name' with
      | true => exact congrArg some hentry.2
      | false => exact ih

theorem header?_extended (hlonger : r.headers <+: r'.headers) (hfound : r.header? name = some v) :
    r'.header? name = some v := by
  obtain ⟨before, key, after, hheaders, hname, hbefore⟩ := header?_eq_some_iff.mp hfound
  obtain ⟨more, hmore⟩ := hlonger
  refine header?_eq_some_iff.mpr ⟨before, key, after ++ more, ?_, hname, hbefore⟩
  rw [← hmore, hheaders, List.append_assoc, List.cons_append]

/-- An entry that does not have the name is passed over. -/
theorem header?_passes (hheaders : r.headers = before ++ h :: after)
    (hheaders' : r'.headers = before ++ after) (hother : ¬ Recased h.1 name) :
    r.header? name = r'.header? name := by
  have hskip : (h :: after).find? (fun h => sameName h.1 name)
      = after.find? fun h => sameName h.1 name :=
    List.find?_cons_of_neg fun hsame => hother (sameName_iff_recased.mp hsame)
  rw [header?, header?, hheaders, hheaders', List.find?_append, List.find?_append, hskip]

/-- No two entries have names that match. -/
def Distinct (hs : List (String × String)) : Prop := hs.Pairwise fun h h' => ¬ Recased h.1 h'.1

theorem Distinct.perm (h : Distinct hs) (hperm : hs.Perm hs') : Distinct hs' :=
  hperm.pairwise h fun hne hrecased => hne hrecased.symm

/-- Where names are distinct, any entry that has the name is the first one. -/
theorem Distinct.header?_eq_some_iff (hd : Distinct r.headers) :
    r.header? name = some v ↔ ∃ key, (key, v) ∈ r.headers ∧ Recased key name := by
  rw [Response.header?_eq_some_iff]
  constructor
  · rintro ⟨before, key, after, hheaders, hname, -⟩
    exact ⟨key, hheaders ▸ List.mem_append_cons_self, hname⟩
  · rintro ⟨key, hmem, hname⟩
    obtain ⟨before, after, hheaders⟩ := List.append_of_mem hmem
    refine ⟨before, key, after, hheaders, hname, fun h hbefore hrecased => ?_⟩
    rw [Distinct, hheaders, List.pairwise_append] at hd
    obtain ⟨-, -, hacross⟩ := hd
    exact hacross h hbefore (key, v) (List.mem_cons_self ..) (hrecased.trans hname.symm)

theorem Distinct.header?_perm (hd : Distinct r.headers) (hperm : r.headers.Perm r'.headers) :
    r.header? name = r'.header? name := by
  refine Option.ext fun v => ?_
  rw [hd.header?_eq_some_iff, (hd.perm hperm).header?_eq_some_iff]
  simp only [hperm.mem_iff]

/-- A header is looked up by the first entry whose name is the given one up to the case of ASCII
letters, which are those that make no difference to the bytes when ASCII capitals are made small.
Other ASCII letters in the name or in the entries do not change what is found, nor do entries that
are appended once something is found, nor the order if the names of the entries are distinct. An
entry whose name differs from the given one in a character beyond ASCII is passed over. -/
theorem headers_looked_up :
    (∀ (r : Response) (name : String),
        (∀ v, r.header? name = some v ↔ ∃ before key after,
          r.headers = before ++ (key, v) :: after ∧ Recased key name
            ∧ ∀ h ∈ before, ¬ Recased h.1 name)
        ∧ (r.header? name = none ↔ ∀ h ∈ r.headers, ¬ Recased h.1 name))
      ∧ (∀ a b : String, Recased a b ↔
        (Utf8.encode a.toList).map lowerByte = (Utf8.encode b.toList).map lowerByte)
      ∧ (∀ (r r' : Response) (name name' : String), Recased name name' →
        List.Forall₂ SameEntry r.headers r'.headers → r.header? name = r'.header? name')
      ∧ (∀ (r r' : Response) (name v : String), r.headers <+: r'.headers →
        r.header? name = some v → r'.header? name = some v)
      ∧ (∀ r r' : Response, Distinct r.headers → r.headers.Perm r'.headers →
        ∀ name, r.header? name = r'.header? name)
      ∧ ∀ (r r' : Response) (before after : List (String × String)) (h : String × String)
        (name : String), r.headers = before ++ h :: after → r'.headers = before ++ after →
        beyondAscii h.1 ≠ beyondAscii name → r.header? name = r'.header? name := by
  refine ⟨fun r name => ⟨fun v => header?_eq_some_iff, header?_eq_none_iff⟩,
    fun a b => recased_iff_bytes, fun r r' name name' => header?_recased,
    fun r r' name v => header?_extended, fun r r' hd hperm name => hd.header?_perm hperm, ?_⟩
  intro r r' before after h name hheaders hheaders' hbeyond
  exact header?_passes hheaders hheaders' fun hrecased => hbeyond hrecased.beyondAscii_eq

/-- Three entries for one name, of which the first begins with a long s. -/
def tangled : Response :=
  ⟨200, [("\u017Fet-cookie", "0"), ("SET-COOKIE", "1"), ("set-cookie", "2")]⟩

/-- The long s is no other form of an ASCII letter, so the second entry is found; and so it is with
other ASCII letters and with more entries. Without the last entry the names are distinct, and the
other two can change places. -/
theorem tangled_looked_up :
    beyondAscii "\u017Fet-cookie" ≠ beyondAscii "Set-Cookie"
      ∧ tangled.header? "Set-Cookie" = some "1"
      ∧ Recased "Set-Cookie" "sET-cOOKIE"
      ∧ header? ⟨200, [("\u017FET-COOKIE", "0"), ("Set-Cookie", "1"), ("SET-cookie", "2")]⟩
        "sET-cOOKIE" = some "1"
      ∧ header? ⟨200, tangled.headers ++ [("Set-Cookie", "3")]⟩ "Set-Cookie" = some "1"
      ∧ Distinct [("\u017Fet-cookie", "0"), ("SET-COOKIE", "1")]
      ∧ header? ⟨200, [("SET-COOKIE", "1"), ("\u017Fet-cookie", "0")]⟩ "Set-Cookie" = some "1" := by
  obtain ⟨hfirst, -, hrecased, happended, hpermuted, hbeyond⟩ := headers_looked_up
  have hlong : beyondAscii "\u017Fet-cookie" ≠ beyondAscii "Set-Cookie" := by decide +kernel
  have hshort : Recased "SET-COOKIE" "Set-Cookie" := sameName_iff_recased.mp (by decide +kernel)
  have hquery : Recased "Set-Cookie" "sET-cOOKIE" := sameName_iff_recased.mp (by decide +kernel)
  have hbehind : ∀ after, header? ⟨200, ("\u017Fet-cookie", "0") :: ("SET-COOKIE", "1") :: after⟩
      "Set-Cookie" = some "1" := by
    intro after
    refine (hbeyond _ ⟨200, ("SET-COOKIE", "1") :: after⟩ [] _ _ _ rfl rfl hlong).trans ?_
    exact ((hfirst _ _).1 "1").mpr
      ⟨[], "SET-COOKIE", after, rfl, hshort, fun _ => List.not_mem_nil.elim⟩
  have hfound : tangled.header? "Set-Cookie" = some "1" := hbehind _
  have hentries : List.Forall₂ SameEntry tangled.headers
      [("\u017FET-COOKIE", "0"), ("Set-Cookie", "1"), ("SET-cookie", "2")] :=
    .cons ⟨sameName_iff_recased.mp (by decide +kernel), rfl⟩
      (.cons ⟨hshort, rfl⟩ (.cons ⟨sameName_iff_recased.mp (by decide +kernel), rfl⟩ .nil))
  have hdistinct : Distinct [("\u017Fet-cookie", "0"), ("SET-COOKIE", "1")] := by
    refine List.pairwise_pair.mpr fun hsame => hlong ?_
    exact (hsame.trans hshort).beyondAscii_eq
  exact ⟨hlong, hfound, hquery, (hrecased _ _ _ _ hquery hentries).symm.trans hfound,
    happended _ _ _ _ (List.prefix_append _ _) hfound, hdistinct,
    (hpermuted _ _ hdistinct (List.Perm.swap _ _ _) _).symm.trans (hbehind [])⟩

end Response

end Liveness
