import ToStringGen.Command.Arguments

/-!
# The same arguments for both commands

The command `generate` knows every option of `check`, and takes it in the same way. The
arguments of a check therefore ask for a dry run with the same options when `generate` is
given the flag for it and then these arguments.
-/

namespace ToStringGen.Command

/-- How the flag for a dry run is noted. -/
def dryRunFlag : String × String := ("dry-run", "")

/-- The dry run that a check stands for. -/
def CheckOptions.rehearsal (options : CheckOptions) : GenerateOptions where
  manifest := options.manifest
  marker := options.marker
  config := options.config
  dryRun := true

/-- An option that `check` knows by its name is known to `generate`. -/
theorem find?_name_generateSpecs {name : String} {spec : Spec}
    (h : checkSpecs.find? (fun spec => spec.name == name) = some spec) :
    generateSpecs.find? (fun spec => spec.name == name) = some spec := by
  have hknown : ∀ spec ∈ checkSpecs,
      generateSpecs.find? (fun other => other.name == spec.name) = some spec := by
    decide
  have hname : spec.name = name := by simpa using List.find?_some h
  rw [← hname]
  exact hknown spec (List.mem_of_find?_eq_some h)

/-- An option that `check` knows by its letter is known to `generate`. -/
theorem find?_letter_generateSpecs {letter : Char} {spec : Spec}
    (h : checkSpecs.find? (fun spec => spec.letter == some letter) = some spec) :
    generateSpecs.find? (fun spec => spec.letter == some letter) = some spec := by
  have hknown : ∀ spec ∈ checkSpecs, spec.letter.isSome = true →
      generateSpecs.find? (fun other => other.letter == spec.letter) = some spec := by
    decide
  have hletter : spec.letter = some letter := by simpa using List.find?_some h
  rw [← hletter]
  exact hknown spec (List.mem_of_find?_eq_some h) (by rw [hletter]; rfl)

/-- The option that an argument names is one that the command knows. -/
theorem mem_of_option? {specs : List Spec} {argument : String} {spec : Spec}
    {value : Option String} (h : option? specs argument = .ok (spec, value)) : spec ∈ specs := by
  unfold option? at h
  split at h
  · simp only at h
    split at h
    · next found hfound =>
      cases h
      exact List.mem_of_find?_eq_some hfound
    · split at h <;> split at h <;> cases h
  · simp only at h
    split at h
    · next found hfound =>
      cases h
      exact List.mem_of_find?_eq_some hfound
    · split at h <;> cases h
  · cases h

/-- An argument that names an option to `check` names it to `generate`. -/
theorem option?_generateSpecs {argument : String} {spec : Spec} {value : Option String}
    (h : option? checkSpecs argument = .ok (spec, value)) :
    option? generateSpecs argument = .ok (spec, value) := by
  unfold option? at h ⊢
  split at h
  · simp only at h ⊢
    split at h
    · next found hfound =>
      cases h
      rw [find?_name_generateSpecs hfound]
    · split at h <;> split at h <;> cases h
  · simp only at h ⊢
    split at h
    · next found hfound =>
      cases h
      rw [find?_letter_generateSpecs hfound]
    · split at h <;> cases h
  · cases h

/-- An option that the command does not know is not among those read. -/
theorem lookup_readOptions_eq_none {specs : List Spec} {name : String}
    (hname : ∀ spec ∈ specs, spec.name ≠ name) {given read : Given} {arguments : List String}
    (hgiven : given.lookup name = none)
    (h : readOptions specs given arguments = .ok read) : read.lookup name = none := by
  have hnote {spec : Spec} {value : String} {given noted : Given} (hmem : spec ∈ specs)
      (hgiven : given.lookup name = none) (hnote : note spec value given = .ok noted) :
      noted.lookup name = none := by
    have hother : (name == spec.name) = false := by simpa using (hname spec hmem).symm
    rw [note] at hnote
    split at hnote
    · cases hnote
    · cases hnote
      rw [List.lookup_cons, hother]
      exact hgiven
  fun_induction readOptions specs given arguments with
  | case1 given =>
    cases h
    exact hgiven
  | case2 given =>
    cases h
    exact hgiven
  | case5 given argument spec rest hkind noted hnoted hmore hoption ih =>
    exact ih (hnote (mem_of_option? hoption) hgiven hnoted) h
  | case8 given argument spec value rest noted hnoted hkind hmore hoption ih =>
    exact ih (hnote (mem_of_option? hoption) hgiven hnoted) h
  | case12 given argument spec value rest hvalue noted hnoted hkind hmore hoption ih =>
    exact ih (hnote (mem_of_option? hoption) hgiven hnoted) h
  | _ => cases h

/-- The flag does not get in the way of other options. -/
theorem lookup_append_dryRunFlag {name : String} (h : name ≠ "dry-run") (given : Given) :
    (given ++ [dryRunFlag]).lookup name = given.lookup name := by
  have hother : (name == "dry-run") = false := by simpa using h
  rw [List.lookup_append, dryRunFlag, List.lookup_cons, hother, List.lookup_nil, Option.or_none]

/-- An option of `check` is noted in the same way after the flag. -/
theorem note_append_dryRunFlag {spec : Spec} (h : spec ∈ checkSpecs) {value : String}
    {given noted : Given} (hnote : note spec value given = .ok noted) :
    note spec value (given ++ [dryRunFlag]) = .ok (noted ++ [dryRunFlag]) := by
  have hnames : ∀ spec ∈ checkSpecs, spec.name ≠ "dry-run" := by decide
  rw [note, lookup_append_dryRunFlag (hnames spec h)]
  rw [note] at hnote
  split at hnote
  · cases hnote
  · next hnew =>
    cases hnote
    rw [if_neg hnew]
    rfl

/-- Arguments that `check` understands are understood by `generate` after the flag. -/
theorem readOptions_append_dryRunFlag {given read : Given} {arguments : List String}
    (h : readOptions checkSpecs given arguments = .ok read) :
    readOptions generateSpecs (given ++ [dryRunFlag]) arguments = .ok (read ++ [dryRunFlag]) := by
  fun_induction readOptions checkSpecs given arguments with
  | case1 given =>
    cases h
    rfl
  | case2 given =>
    cases h
    rfl
  | case5 given argument spec rest hkind noted hnote hmore hoption ih =>
    have hmem := mem_of_option? hoption
    rw [readOptions, option?_generateSpecs hoption]
    · simp only [hkind, note_append_dryRunFlag hmem hnote]
      exact ih h
    · exact hmore
  | case8 given argument spec value rest noted hnote hkind hmore hoption ih =>
    have hmem := mem_of_option? hoption
    rw [readOptions, option?_generateSpecs hoption]
    · simp only [note_append_dryRunFlag hmem hnote]
      exact ih h
    · exact hmore
  | case12 given argument spec value rest hvalue noted hnote hkind hmore hoption ih =>
    have hmem := mem_of_option? hoption
    rw [readOptions, option?_generateSpecs hoption]
    · simp only [hvalue, note_append_dryRunFlag hmem hnote]
      exact ih h
    · exact hmore
  | _ => cases h

/-- The flag is the first option that `generate` notes when it comes first. -/
theorem readOptions_dryRun (arguments : List String) :
    readOptions generateSpecs [] ("--dry-run" :: arguments) =
      readOptions generateSpecs [dryRunFlag] arguments := by
  have hoption : option? generateSpecs "--dry-run" =
      .ok ({ name := "dry-run", kind := .flag }, none) := by
    rfl
  rw [readOptions, hoption]
  · rfl
  · exact fun h => absurd h (by decide)

/-- The arguments of a check, after the flag, ask for the dry run that the check stands for. -/
theorem parse_rehearsal {arguments : List String} {options : CheckOptions}
    (h : Invocation.parse ("check" :: arguments) = .check options) :
    Invocation.parse ("generate" :: "--dry-run" :: arguments) = .generate options.rehearsal := by
  have hcheck : parseCheck arguments = .check options := h
  rw [parseCheck] at hcheck
  split at hcheck
  · next stop _ => cases stop <;> cases hcheck
  · next given hgiven =>
    have hunknown (name : String) (hname : ∀ spec ∈ checkSpecs, spec.name ≠ name) :
        given.lookup name = none :=
      lookup_readOptions_eq_none hname rfl hgiven
    have hread : readOptions generateSpecs [] ("--dry-run" :: arguments) =
        .ok (given ++ [dryRunFlag]) := by
      rw [readOptions_dryRun]
      exact readOptions_append_dryRunFlag hgiven
    have hdryRun : (given ++ [dryRunFlag]).lookup "dry-run" = some "" := by
      rw [List.lookup_append, hunknown "dry-run" (by decide)]
      rfl
    split at hcheck
    · cases hcheck
    · next manifest hmanifest =>
      cases hcheck
      change parseGenerate ("--dry-run" :: arguments) = _
      rw [parseGenerate, hread]
      simp only [lookup_append_dryRunFlag, ne_eq, String.reduceEq, not_false_eq_true, hmanifest,
        hdryRun, hunknown "output" (by decide), hunknown "log-level" (by decide)]
      rfl

end ToStringGen.Command
