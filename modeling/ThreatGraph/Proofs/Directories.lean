import ThreatGraph.Host.FileSystem
import ThreatGraph.Proofs.Pieces

/-!
# Directories of files that are there

A path leads through the directory that it lies in. So where something is at a path, that directory
is there too, and creating it changes nothing (`FileSystem.createDirectories?_of_isThere`). The
directory is written without the names at its end that say nothing, so the two paths are compared
by the names that say something, which are the path's `steps`.

Dropping idle names from the end of a path changes its text, but not its steps
(`steps_dropIdle`); the last step is what the directory lacks (`steps_of_parent?`). Following a path
and creating one ignore idle names as well, so both can be compared step by step.
-/

namespace ThreatGraph

namespace Path

/-- Whether a name says where a path leads. -/
def leads (name : String) : Bool := name != "" && name != "."

/-- The names that say where a path leads. -/
def steps (cs : List Char) : List String :=
  ((Text.pieces '/' cs).map String.ofList).filter leads

/-- The names of a path that lead somewhere are its steps. -/
theorem filter_names (path : String) : (names path).filter leads = steps path.toList := rfl

/-- A name leads somewhere unless it is empty or a point. -/
theorem leads_iff {name : String} : leads name = true ↔ ¬ (name = "" ∨ name = ".") := by
  simp [leads, not_or]

/-! ## The steps of a path -/

/-- The steps on both sides of a slash are those of the parts. -/
theorem steps_append (before rest : List Char) :
    steps (before ++ '/' :: rest) = steps before ++ steps rest := by
  rw [steps, Text.pieces_append, List.map_append, List.filter_append]
  rfl

/-- A slash at the end says nothing. -/
theorem steps_slash (cs : List Char) : steps (cs ++ ['/']) = steps cs := by
  have hnone : steps [] = [] := by decide
  rw [steps_append, hnone, List.append_nil]

/-- A point at the end says nothing. -/
theorem steps_point (cs : List Char) : steps (cs ++ ['/', '.']) = steps cs := by
  have hnone : steps ['.'] = [] := by decide
  rw [steps_append, hnone, List.append_nil]

/-- Another name is a step. -/
theorem steps_name {name : List Char} (h : '/' ∉ name) (hempty : name ≠ [])
    (hpoint : name ≠ ['.']) : steps name = [String.ofList name] := by
  have hleads : leads (String.ofList name) = true := by
    rw [leads_iff]
    rintro (heq | heq)
    · exact hempty (String.ofList_injective heq)
    · exact hpoint (String.ofList_injective heq)
  rw [steps, Text.pieces_of_not_mem h, List.map_singleton, List.filter_cons_of_pos hleads,
    List.filter_nil]

/-! ## The end of a path -/

/-- What is dropped at the end of a path says nothing. -/
theorem steps_dropIdle (reversed : List Char) :
    steps (dropIdle reversed).reverse = steps reversed.reverse := by
  induction reversed using dropIdle.induct with
  | case1 => rfl
  | case2 rest hrest ih =>
    rw [dropIdle, ih, List.reverse_cons, steps_slash]
    exact hrest
  | case3 => decide
  | case4 rest hrest ih =>
    rw [dropIdle, ih, List.reverse_cons, List.reverse_cons, List.append_assoc,
      List.singleton_append, steps_point]
    exact hrest
  | case5 => rw [dropIdle] <;> assumption

/-- The front of a path stays as it is. -/
theorem getLast?_dropIdle (reversed : List Char) :
    (dropIdle reversed).getLast? = reversed.getLast? := by
  induction reversed using dropIdle.induct with
  | case1 => rfl
  | case2 rest hrest ih =>
    obtain ⟨c, more, rfl⟩ := List.exists_cons_of_ne_nil hrest
    rw [dropIdle, ih, List.getLast?_cons_cons]
    exact hrest
  | case3 => rfl
  | case4 rest hrest ih =>
    obtain ⟨c, more, rfl⟩ := List.exists_cons_of_ne_nil hrest
    rw [dropIdle, ih, List.getLast?_cons_cons, List.getLast?_cons_cons]
    exact hrest
  | case5 => rw [dropIdle] <;> assumption

/-- A path other than the root's ends in a name that says something. -/
theorem dropIdle_named {reversed : List Char} (h : dropIdle reversed ≠ ['/']) :
    (∀ more, dropIdle reversed ≠ '/' :: more) ∧
      ∀ more, dropIdle reversed ≠ '.' :: '/' :: more := by
  induction reversed using dropIdle.induct with
  | case1 => exact absurd rfl h
  | case2 rest hrest ih =>
    rw [dropIdle] at h ⊢
    exacts [ih h, hrest, hrest]
  | case3 => exact absurd rfl h
  | case4 rest hrest ih =>
    rw [dropIdle] at h ⊢
    exacts [ih h, hrest, hrest]
  | case5 path h1 h2 h3 h4 =>
    rw [dropIdle]
    exacts [⟨h2, h4⟩, h1, h2, h3, h4]

/-- What a path and its directory are, from the end of the path. -/
theorem exists_of_parent? {path parent : String} (h : parent? path = some parent)
    (hparent : parent ≠ "") :
    ∃ name more, dropIdle path.toList.reverse = name ++ '/' :: more ∧
      ('/' ∉ name ∧ name ≠ [] ∧ name ≠ ['.']) ∧
      parent = String.ofList (dropIdle ('/' :: more)).reverse := by
  rw [parent?] at h
  split at h
  · cases h
  · cases h
  · next hroot =>
    obtain rfl := Option.some.inj h
    have hall {name : List Char} (hname : '/' ∉ name) : ∀ c ∈ name, (c != '/') = true := by
      intro c hc
      rw [bne_iff_ne]
      rintro rfl
      exact hname hc
    by_cases hslash : '/' ∈ dropIdle path.toList.reverse
    · obtain ⟨name, more, heq, hname⟩ := List.eq_append_cons_of_mem hslash
      obtain ⟨hempty, hpoint⟩ := dropIdle_named hroot
      rw [heq] at hempty hpoint ⊢
      refine ⟨name, more, rfl, ⟨hname, ?_, ?_⟩, ?_⟩
      · rintro rfl
        exact hempty more rfl
      · rintro rfl
        exact hpoint more rfl
      · rw [List.dropWhile_append_of_pos (hall hname)]
        simp
    · -- a single name has no directory
      rw [List.dropWhile_eq_nil_iff.mpr (hall hslash)] at hparent
      exact absurd rfl hparent

/-- A path leads through its directory, and then one step further. -/
theorem steps_of_parent? {path parent : String} (h : parent? path = some parent)
    (hparent : parent ≠ "") :
    ∃ name, steps path.toList = steps parent.toList ++ [name] := by
  obtain ⟨name, more, hpath, ⟨hslash, hempty, hpoint⟩, rfl⟩ := exists_of_parent? h hparent
  refine ⟨String.ofList name.reverse, ?_⟩
  have hname : steps name.reverse = [String.ofList name.reverse] :=
    steps_name (by simpa using hslash) (by simpa using hempty) (by simpa using hpoint)
  calc steps path.toList
      = steps (name ++ '/' :: more).reverse := by rw [← hpath, steps_dropIdle, List.reverse_reverse]
    _ = steps more.reverse ++ [String.ofList name.reverse] := by
        rw [List.reverse_append, List.reverse_cons, List.append_assoc, List.singleton_append,
          steps_append, hname]
    _ = steps (dropIdle ('/' :: more)).reverse ++ [String.ofList name.reverse] := by
        rw [steps_dropIdle, List.reverse_cons, steps_slash]
    _ = _ := by rw [String.toList_ofList]

/-- A path and its directory start at the same place. -/
theorem isAbsolute_of_parent? {path parent : String} (h : parent? path = some parent)
    (hparent : parent ≠ "") : isAbsolute parent = isAbsolute path := by
  obtain ⟨name, more, hpath, -, rfl⟩ := exists_of_parent? h hparent
  have hlast : path.toList.head? = ('/' :: more).getLast? := by
    rw [← List.getLast?_reverse, ← getLast?_dropIdle, hpath, List.getLast?_append_cons]
  rw [isAbsolute, isAbsolute, String.toList_ofList, List.head?_reverse, getLast?_dropIdle, hlast]

end Path

namespace FileSystem

variable {fs : FileSystem} {place target : List String}

/-! ## Following a path -/

/-- A path that goes on goes on from a directory. -/
theorem isDirectory_of_follow? {names : List String} (h : fs.follow? place names = some target)
    (hnames : names ≠ []) : fs.isDirectory place = true := by
  obtain ⟨name, rest, rfl⟩ := List.exists_cons_of_ne_nil hnames
  rw [follow?] at h
  split at h
  · cases h
  · next hplace => simpa using hplace

/-- Only the names that say something count where a path is followed. -/
theorem follow?_filter {names : List String} (h : fs.follow? place names = some target) :
    fs.follow? place (names.filter Path.leads) = some target := by
  induction names generalizing place with
  | nil => exact h
  | cons name rest ih =>
    rw [follow?] at h
    split at h
    · cases h
    · next hplace =>
      by_cases hidle : name = "" ∨ name = "."
      · rw [if_pos hidle] at h
        rw [List.filter_cons_of_neg (mt Path.leads_iff.mp (not_not.mpr hidle)), ih h]
      · rw [if_neg hidle] at h
        rw [List.filter_cons_of_pos (Path.leads_iff.mpr hidle), follow?, if_neg hplace,
          if_neg hidle]
        split at h
        · next hback => rw [if_pos hback, ih h]
        · next hback => rw [if_neg hback, ih h]

/-- Only the names that say something count where directories are created. -/
theorem createFrom?_filter (fs : FileSystem) (place names : List String) :
    createFrom? fs place (names.filter Path.leads) = createFrom? fs place names := by
  induction names generalizing fs place with
  | nil => rfl
  | cons name rest ih =>
    by_cases hidle : name = "" ∨ name = "."
    · rw [List.filter_cons_of_neg (mt Path.leads_iff.mp (not_not.mpr hidle)), ih, createFrom?,
        if_pos hidle]
    · rw [List.filter_cons_of_pos (Path.leads_iff.mpr hidle), createFrom?, createFrom?]
      simp only [ih]

/-- A path leads through directories only, so none of them has to be created. -/
theorem createFrom?_of_follow? {before rest : List String} {name : String}
    (h : fs.follow? place (before ++ name :: rest) = some target) :
    createFrom? fs place before = some fs := by
  induction before generalizing place with
  | nil => rfl
  | cons first more ih =>
    rw [List.cons_append, follow?] at h
    rw [createFrom?]
    split at h
    · cases h
    · split at h
      · next hidle => rw [if_pos hidle, ih h]
      · next hidle =>
        rw [if_neg hidle]
        split at h
        · next hback => rw [if_pos hback, ih h]
        · next hback =>
          have hdirectory : fs.isDirectory (place ++ [first]) = true :=
            isDirectory_of_follow? h (by simp)
          rw [if_neg hback]
          dsimp only
          rw [if_pos hdirectory, ih h]

/-- **Where something is, the directory around it is there too**: to create it changes nothing. -/
theorem createDirectories?_of_isThere {path parent : String} (h : fs.isThere path = true)
    (hparent : Path.parent? path = some parent) (hne : parent ≠ "") :
    fs.createDirectories? parent = some fs := by
  obtain ⟨target, htarget, -⟩ := (Option.any_eq_true _ _).mp h
  rw [place?] at htarget
  split at htarget
  · cases htarget
  · have hfollow := follow?_filter htarget
    obtain ⟨name, hsteps⟩ := Path.steps_of_parent? hparent hne
    rw [Path.filter_names, hsteps] at hfollow
    have hempty : ¬ parent.isEmpty = true := by simpa using hne
    have hstart : fs.start parent = fs.start path := by
      rw [start, start, Path.isAbsolute_of_parent? hparent hne]
    rw [createDirectories?, if_neg hempty, hstart, ← createFrom?_filter, Path.filter_names]
    exact createFrom?_of_follow? hfollow

end FileSystem

end ThreatGraph
