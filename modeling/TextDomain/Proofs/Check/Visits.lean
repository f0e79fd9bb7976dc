import TextDomain.Proofs.Check.File

/-!
# Making visits

Visits are made one after another, each in the tree that those before it left. A
visit either adds a notice and nothing else, or settles what checking the
content of one file came to. So visits never fail, keep the shape of the tree,
and leave every file alone that they do not go to.

What is in the files at the end, and whether a diagnostic was found, depends on
the places that are visited but not on the names they are visited by, nor on
their order: two visits of different files do not concern each other, and two
visits of one file are interchangeable because they do the same.

If no file is visited twice, each is left as its visit found it fixed, so making
the visits again without fixing finds the same diagnostics.

## Main results

* `Progress.checkAll_eq_foldl` — visits never fail.
* `Progress.contentAt_foldl_visit` — they change visited files only.
* `Progress.summary_foldl_visit_perm` — their order does not matter.
* `Progress.foldl_visit_again` — a second look finds what the first one left.
-/

namespace TextDomain

variable {policy : Policy} {fix : Bool} {files : FileSystem} {place : Place}

/-! ## Where visits go -/

namespace Visit

/-- The path that is visited. -/
def path : Visit → Text
  | .file path => path
  | .nothing path => path

/-- The place of the file that a visit goes to. -/
def place? (files : FileSystem) : Visit → Option Place
  | .file path => (files.fileAt? path).map Prod.fst
  | .nothing _ => none

/-- In trees of one shape, a visit goes to the same place. -/
theorem place?_eq {files' : FileSystem} (h : files.SameShape files') :
    place? files = place? files' := by
  funext v
  cases v with
  | file path => exact h.map_fileAt?_eq path
  | nothing path => rfl

end Visit

/-- The places of the files that visits go to. -/
def placesOf (files : FileSystem) (visits : List Visit) : List Place :=
  visits.filterMap (Visit.place? files)

theorem placesOf_eq {files' : FileSystem} (h : files.SameShape files') :
    placesOf files = placesOf files' := by
  funext visits
  rw [placesOf, placesOf, Visit.place?_eq h]

theorem placesOf_cons_of_none {v : Visit} (h : v.place? files = none) (rest : List Visit) :
    placesOf files (v :: rest) = placesOf files rest :=
  List.filterMap_cons_none h

theorem placesOf_cons_of_some {v : Visit} (h : v.place? files = some place) (rest : List Visit) :
    placesOf files (v :: rest) = place :: placesOf files rest :=
  List.filterMap_cons_some h

theorem not_mem_placesOf_iff {visits : List Visit} :
    place ∉ placesOf files visits ↔ ∀ v ∈ visits, v.place? files ≠ some place := by
  simp only [placesOf, List.mem_filterMap, not_exists, not_and, ne_eq]

namespace Progress

/-! ## One visit -/

/-- Makes a visit. -/
def visit (policy : Policy) (fix : Bool) (p : Progress) : Visit → Progress
  | .nothing path => p.note (.notFound path)
  | .file path => p.checked policy fix path

/-- Visits never fail. -/
theorem checkAll_eq_foldl (policy : Policy) (fix : Bool) (visits : List Visit) (p : Progress) :
    p.checkAll policy fix visits = (visits.foldl (visit policy fix) p, none) := by
  induction visits generalizing p with
  | nil => rfl
  | cons v rest ih =>
    cases v with
    | nothing path => exact ih (p.note (.notFound path))
    | file path =>
      simp only [checkAll, checkFile_eq_checked]
      exact ih (p.checked policy fix path)

/-- A visit that goes to no file adds a notice. -/
theorem visit_of_none {p : Progress} {v : Visit} (h : v.place? p.files = none) :
    ∃ n, ∀ policy fix, p.visit policy fix v = p.note n := by
  cases v with
  | nothing path => exact ⟨.notFound path, fun _ _ => rfl⟩
  | file path =>
    rw [Visit.place?, Option.map_eq_none_iff] at h
    exact ⟨.unreadable path, fun _ _ => checked_of_none h⟩

/-- A visit that goes to a file settles what checking its content came to. -/
theorem visit_of_some {p : Progress} {v : Visit} (h : v.place? p.files = some place) :
    ∃ content, p.files.contentAt place = some content ∧ ∀ policy fix,
      p.visit policy fix v = p.settle place (checkContent policy fix v.path content) := by
  cases v with
  | nothing path => cases h
  | file path =>
    rw [Visit.place?, Option.map_eq_some_iff] at h
    obtain ⟨⟨_, content⟩, hfile, rfl⟩ := h
    have hcontent := (FileSystem.fileAt?_eq_some_iff.1 hfile).2
    exact ⟨content, hcontent, fun _ _ => checked_of_some hfile⟩

theorem sameShape_visit (policy : Policy) (fix : Bool) (p : Progress) (v : Visit) :
    (p.visit policy fix v).files.SameShape p.files := by
  cases hplace : v.place? p.files with
  | none =>
    obtain ⟨n, hvisit⟩ := visit_of_none hplace
    rw [hvisit]
    rfl
  | some place =>
    obtain ⟨content, hcontent, hvisit⟩ := visit_of_some hplace
    rw [hvisit]
    exact FileSystem.sameShape_withContent hcontent _

/-- A visit changes the file that it goes to, and no other one. -/
theorem contentAt_visit_of_ne {p : Progress} {v : Visit} (h : v.place? p.files ≠ some place) :
    (p.visit policy fix v).files.contentAt place = p.files.contentAt place := by
  cases hplace : v.place? p.files with
  | none =>
    obtain ⟨n, hvisit⟩ := visit_of_none hplace
    rw [hvisit]
    rfl
  | some other =>
    obtain ⟨content, hcontent, hvisit⟩ := visit_of_some hplace
    have hne : place ≠ other := by
      rintro rfl
      exact h hplace
    rw [hvisit]
    exact FileSystem.contentAt_withContent_of_ne hcontent hne _

/-! ## Visits one after another -/

theorem sameShape_foldl_visit (policy : Policy) (fix : Bool) (visits : List Visit) (p : Progress) :
    (visits.foldl (visit policy fix) p).files.SameShape p.files := by
  induction visits generalizing p with
  | nil => rfl
  | cons v rest ih => exact (ih (p.visit policy fix v)).trans (sameShape_visit policy fix p v)

/-- A file that is not visited stays as it is. -/
theorem contentAt_foldl_visit {visits : List Visit} {p : Progress}
    (h : place ∉ placesOf p.files visits) :
    (visits.foldl (visit policy fix) p).files.contentAt place = p.files.contentAt place := by
  induction visits generalizing p with
  | nil => rfl
  | cons v rest ih =>
    rw [not_mem_placesOf_iff] at h
    have hrest : place ∉ placesOf (p.visit policy fix v).files rest := by
      rw [placesOf_eq (sameShape_visit policy fix p v), not_mem_placesOf_iff]
      intro v' hv'
      exact h v' (List.mem_cons_of_mem v hv')
    rw [List.foldl_cons, ih hrest]
    exact contentAt_visit_of_ne (h v List.mem_cons_self)

end Progress

/-! ## The order of visits -/

/-- What is to be told of visits when they have been made. -/
structure Summary where
  /-- The files. -/
  files : FileSystem
  /-- Whether there were no diagnostics. -/
  isClean : Bool

namespace Summary

/-- Takes in what checking the file at a place comes to. Its name is left open:
it makes no difference here. -/
def treat (policy : Policy) (fix : Bool) (s : Summary) (place : Place) : Summary :=
  match s.files.contentAt place with
  | none => s
  | some content =>
    let c := checkContent policy fix [] content
    ⟨s.files.withContent place c.content, s.isClean && c.diagnostics.isEmpty⟩

theorem treat_of_none {s : Summary} (h : s.files.contentAt place = none) :
    s.treat policy fix place = s := by
  simp only [treat, h]

theorem treat_of_some {s : Summary} {content : Bytes} (h : s.files.contentAt place = some content) :
    s.treat policy fix place =
      ⟨s.files.withContent place (checkContent policy fix [] content).content,
        s.isClean && (checkContent policy fix [] content).diagnostics.isEmpty⟩ := by
  simp only [treat, h]

theorem contentAt_treat_of_ne (policy : Policy) (fix : Bool) (s : Summary) {other : Place}
    (h : other ≠ place) :
    (s.treat policy fix place).files.contentAt other = s.files.contentAt other := by
  cases hcontent : s.files.contentAt place with
  | none => rw [treat_of_none hcontent]
  | some content =>
    rw [treat_of_some hcontent]
    exact FileSystem.contentAt_withContent_of_ne hcontent h _

/-- Two files may be treated in either order. -/
theorem treat_comm (s : Summary) (a b : Place) :
    (s.treat policy fix a).treat policy fix b = (s.treat policy fix b).treat policy fix a := by
  by_cases hsame : a = b
  · rw [hsame]
  · have hb := contentAt_treat_of_ne policy fix s (Ne.symm hsame)
    have ha := contentAt_treat_of_ne policy fix s hsame
    cases hca : s.files.contentAt a with
    | none =>
      rw [hca] at ha
      rw [treat_of_none hca, treat_of_none ha]
    | some ca =>
      cases hcb : s.files.contentAt b with
      | none =>
        rw [hcb] at hb
        rw [treat_of_none hcb, treat_of_none hb]
      | some cb =>
        rw [hca] at ha
        rw [hcb] at hb
        rw [treat_of_some hb, treat_of_some ha, treat_of_some hca, treat_of_some hcb]
        simp only [mk.injEq]
        constructor
        · exact FileSystem.withContent_comm hcb hca hsame _ _
        · exact Bool.and_right_comm _ _ _

end Summary

namespace Progress

/-- What is to be told so far. -/
def summary (p : Progress) : Summary := ⟨p.files, p.diagnostics.isEmpty⟩

theorem summary_visit_of_none {p : Progress} {v : Visit} (h : v.place? p.files = none) :
    (p.visit policy fix v).summary = p.summary := by
  obtain ⟨n, hvisit⟩ := visit_of_none h
  rw [hvisit]
  rfl

/-- A visit treats the file at its place. -/
theorem summary_visit_of_some {p : Progress} {v : Visit} (h : v.place? p.files = some place) :
    (p.visit policy fix v).summary = p.summary.treat policy fix place := by
  obtain ⟨content, hcontent, hvisit⟩ := visit_of_some h
  have htreat : p.summary.treat policy fix place = _ := Summary.treat_of_some hcontent
  obtain ⟨hleft, hfound⟩ := checkContent_inFile policy fix [] v.path content
  rw [hvisit, htreat]
  simp only [summary, settle, hleft, hfound, Summary.mk.injEq, true_and]
  cases p.diagnostics <;> simp

/-- Visits treat the files at their places, one after another. -/
theorem summary_foldl_visit (visits : List Visit) {p : Progress} (h : p.files.SameShape files) :
    (visits.foldl (visit policy fix) p).summary =
      (placesOf files visits).foldl (Summary.treat policy fix) p.summary := by
  induction visits generalizing p with
  | nil => rfl
  | cons v rest ih =>
    rw [List.foldl_cons, ih ((sameShape_visit policy fix p v).trans h), ← placesOf_eq h]
    cases hplace : v.place? p.files with
    | none => rw [summary_visit_of_none hplace, placesOf_cons_of_none hplace]
    | some place =>
      rw [summary_visit_of_some hplace, placesOf_cons_of_some hplace, List.foldl_cons]

/-- The order of visits does not matter for what is to be told of them. -/
theorem summary_foldl_visit_perm {visits visits' : List Visit} (h : visits'.Perm visits)
    (p : Progress) : (visits'.foldl (visit policy fix) p).summary =
      (visits.foldl (visit policy fix) p).summary := by
  have hshape : p.files.SameShape p.files := rfl
  have hplaces : (placesOf p.files visits').Perm (placesOf p.files visits) := h.filterMap _
  rw [summary_foldl_visit visits' hshape, summary_foldl_visit visits hshape]
  exact hplaces.foldl_eq' (fun a _ b _ s => Summary.treat_comm s a b) p.summary

/-! ## A second look -/

/-- Making visits again without fixing, in the tree that they left, finds the
same diagnostics and changes nothing, unless a file is visited twice. -/
theorem foldl_visit_again {visits : List Visit} {p q : Progress}
    (honce : (placesOf p.files visits).Nodup)
    (hfiles : q.files = (visits.foldl (visit policy fix) p).files)
    (hfound : q.diagnostics = p.diagnostics) :
    (visits.foldl (visit policy false) q).diagnostics =
        (visits.foldl (visit policy fix) p).diagnostics ∧
      (visits.foldl (visit policy false) q).files = q.files := by
  induction visits generalizing p q with
  | nil => exact ⟨hfound, rfl⟩
  | cons v rest ih =>
    have hshape : q.files.SameShape p.files := by
      rw [hfiles]
      exact sameShape_foldl_visit policy fix (v :: rest) p
    have hrest := placesOf_eq (sameShape_visit policy fix p v)
    rw [List.foldl_cons, List.foldl_cons]
    cases hplace : v.place? p.files with
    | none =>
      obtain ⟨n, hvisit⟩ := visit_of_none hplace
      obtain ⟨n', hagain⟩ := visit_of_none (hplace ▸ congrFun (Visit.place?_eq hshape) v)
      rw [placesOf_cons_of_none hplace, ← hrest] at honce
      have hkept : (q.visit policy false v).files = q.files := by
        rw [hagain]
        rfl
      have hsame : (q.visit policy false v).diagnostics = (p.visit policy fix v).diagnostics := by
        rw [hagain, hvisit]
        exact hfound
      have hlook := ih honce (hkept.trans hfiles) hsame
      rw [hkept] at hlook
      exact hlook
    | some place =>
      obtain ⟨content, hcontent, hvisit⟩ := visit_of_some hplace
      obtain ⟨left, hleft, hagain⟩ := visit_of_some (hplace ▸ congrFun (Visit.place?_eq hshape) v)
      rw [placesOf_cons_of_some hplace, List.nodup_cons, ← hrest] at honce
      -- The file is as its visit left it: no later visit goes there.
      have hlast : left = (checkContent policy fix v.path content).content := by
        rw [hfiles, List.foldl_cons, contentAt_foldl_visit honce.1, hvisit] at hleft
        have hwritten := FileSystem.contentAt_withContent_self hcontent
          (checkContent policy fix v.path content).content
        exact Option.some.inj (hleft.symm.trans hwritten)
      have hkept : (q.visit policy false v).files = q.files := by
        rw [hagain, settle, content_checkContent_false]
        exact FileSystem.withContent_self hleft
      have hsame : (q.visit policy false v).diagnostics = (p.visit policy fix v).diagnostics := by
        rw [hagain, hvisit, hlast, settle, settle, hfound, checkContent_again]
      have hlook := ih honce.2 (hkept.trans hfiles) hsame
      rw [hkept] at hlook
      exact hlook

end Progress

end TextDomain
