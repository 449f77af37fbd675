import Decisioning.Surface
import Mathlib.Data.List.TakeWhile

/-!
# The Grammar of Surfaces

Which texts are valid surfaces, and what the two ways of naming a surface of an
application make.

Validity is decided by cutting a text at its first scheme separator, while a grammar
only says that some cut has a scheme before and a rest behind. A text may have several
separators, and the first of them need not be the one that the grammar means. It is,
because a scheme has no colon: what stands before the separator that the grammar means
cannot hold an earlier one.

A surface at a path is the default surface of a longer name, which is how its validity
follows from that of the default surface.

## Main definitions

* `Surface.IsUri`: A text made of a scheme, the separator and a rest.
* `HasWhiteSpace`: A text with white space in it.
* `withoutSlashes`: A path from its first character on that is no slash.

## Theorems

* `splitScheme?_append`, `eq_append_of_splitScheme?`: Cutting at the first separator.
* `Surface.isValid_iff`: A surface is valid exactly if it is written in the grammar.
* `Surface.isValid_forApp`: When the default surface is valid.
* `Surface.fromPath_eq_forApp`: A surface at a path is a default surface.
* `Surface.valid_exactly_in_grammar`: Validity of all surfaces and of those that are
  made from names and paths.
-/

namespace Decisioning

section Cutting

variable {scheme rest text : List Char}

/-- A scheme without a colon ends at the first separator. -/
theorem splitScheme?_append (h : ':' ∉ scheme) :
    splitScheme? (scheme ++ "://".toList ++ rest) = some (scheme, rest) := by
  induction scheme with
  | nil => rfl
  | cons c scheme ih =>
      have hne : c ≠ ':' := fun hc => h (hc ▸ List.mem_cons_self)
      have hscheme : ':' ∉ scheme := fun hmem => h (List.mem_cons_of_mem c hmem)
      -- The separator starts with a colon, so it does not start here.
      rw [List.cons_append, List.cons_append, splitScheme?, ih hscheme]
      · rfl
      · intro _ hc
        exact absurd hc hne

/-- A cut loses nothing but the separator. -/
theorem eq_append_of_splitScheme? (h : splitScheme? text = some (scheme, rest)) :
    text = scheme ++ "://".toList ++ rest := by
  fun_induction splitScheme? text generalizing scheme with
  | case1 => exact nomatch h
  | case2 => cases h; rfl
  | case3 c text hseparator ih =>
      rcases Option.map_eq_some_iff.mp h with ⟨⟨before, after⟩, hcut, hparts⟩
      cases hparts
      rw [ih hcut, List.cons_append, List.cons_append]

end Cutting

/-- Some character of a text is white space. -/
def HasWhiteSpace (text : String) : Prop := ∃ c ∈ text.toList, isWhiteSpace c = true

theorem any_isWhiteSpace_eq_false_iff (text : String) :
    text.toList.any isWhiteSpace = false ↔ ¬HasWhiteSpace text := by
  rw [← Bool.not_eq_true, List.any_eq_true, HasWhiteSpace]

theorem hasWhiteSpace_append (a b : String) :
    HasWhiteSpace (a ++ b) ↔ HasWhiteSpace a ∨ HasWhiteSpace b := by
  simp only [HasWhiteSpace, String.toList_append, List.mem_append, or_and_right, exists_or]

/-- A path from its first character on that is no slash. -/
def withoutSlashes (path : String) : String := String.ofList (path.toList.dropWhile (· = '/'))

/-- Slashes are no white space, so none is lost with them. -/
theorem hasWhiteSpace_withoutSlashes (path : String) :
    HasWhiteSpace (withoutSlashes path) ↔ HasWhiteSpace path := by
  have hslashes : ¬∃ c ∈ path.toList.takeWhile (· = '/'), isWhiteSpace c = true := by
    rintro ⟨c, hc, hwhite⟩
    have hslash := List.mem_takeWhile_imp hc
    rw [of_decide_eq_true hslash] at hwhite
    exact absurd hwhite (by decide)
  have hparts : path.toList
      = path.toList.takeWhile (· = '/') ++ (withoutSlashes path).toList := by
    rw [withoutSlashes, String.toList_ofList, List.takeWhile_append_dropWhile]
  unfold HasWhiteSpace
  rw [hparts]
  simp only [List.mem_append, or_and_right, exists_or, hslashes, false_or]

theorem withoutSlashes_eq_empty_iff (path : String) :
    withoutSlashes path = "" ↔ ∀ c ∈ path.toList, c = '/' := by
  rw [← String.toList_eq_nil_iff, withoutSlashes, String.toList_ofList, List.dropWhile_eq_nil_iff]
  simp only [decide_eq_true_eq]

/-- The characters of a scheme, one range after the other. -/
theorem isSchemeChar_iff (c : Char) :
    isSchemeChar c = true ↔ ('A' ≤ c ∧ c ≤ 'Z') ∨ ('a' ≤ c ∧ c ≤ 'z') ∨ ('0' ≤ c ∧ c ≤ '9')
      ∨ c = '+' ∨ c = '-' ∨ c = '.' := by
  have hchecks : isSchemeChar c = (decide ('A' ≤ c ∧ c ≤ 'Z')
      || decide ('a' ≤ c) && decide (c ≤ 'z') || decide ('0' ≤ c) && decide (c ≤ '9')
      || decide (c = '+') || decide (c = '-') || decide (c = '.')) := rfl
  simp only [hchecks, Bool.or_eq_true, Bool.and_eq_true, decide_eq_true_eq, or_assoc]

namespace Surface

/-- A text is a scheme, the separator and a rest. -/
structure IsUri (scheme rest text : String) : Prop where
  parts : text = scheme ++ "://" ++ rest
  scheme_ne_empty : scheme ≠ ""
  /-- A scheme has letters and digits of ASCII, plus, minus and dot. -/
  scheme_chars : ∀ c ∈ scheme.toList, ('A' ≤ c ∧ c ≤ 'Z') ∨ ('a' ≤ c ∧ c ≤ 'z')
    ∨ ('0' ≤ c ∧ c ≤ '9') ∨ c = '+' ∨ c = '-' ∨ c = '.'
  rest_ne_empty : rest ≠ ""
  rest_chars : ¬HasWhiteSpace rest

/-- What is checked of the two parts of a cut is what the grammar asks of them. -/
theorem isUri_iff_checks (scheme rest : String) :
    IsUri scheme rest (scheme ++ "://" ++ rest)
      ↔ (!scheme.toList.isEmpty && !rest.toList.isEmpty && scheme.toList.all isSchemeChar
        && !rest.toList.any isWhiteSpace) = true := by
  simp only [Bool.and_eq_true, Bool.not_eq_true', List.isEmpty_eq_false_iff, ne_eq,
    String.toList_eq_nil_iff, List.all_eq_true, isSchemeChar_iff, any_isWhiteSpace_eq_false_iff]
  constructor
  · exact fun h => ⟨⟨⟨h.scheme_ne_empty, h.rest_ne_empty⟩, h.scheme_chars⟩, h.rest_chars⟩
  · exact fun ⟨⟨⟨hscheme, hrest⟩, hchars⟩, hwhite⟩ => ⟨rfl, hscheme, hchars, hrest, hwhite⟩

/-- The first separator of a text in the grammar is the one after its scheme. -/
theorem IsUri.splitScheme? {scheme rest text : String} (h : IsUri scheme rest text) :
    splitScheme? text.toList = some (scheme.toList, rest.toList) := by
  have hcolon : ':' ∉ scheme.toList := fun hmem =>
    absurd (h.scheme_chars ':' hmem) (by decide)
  rw [h.parts, String.toList_append, String.toList_append]
  exact splitScheme?_append hcolon

/-- A surface is valid exactly if some scheme and some rest make its text. -/
theorem isValid_iff (text : String) :
    (Surface.mk text).isValid = true ↔ ∃ scheme rest, IsUri scheme rest text := by
  constructor
  · intro hvalid
    unfold isValid at hvalid
    rcases hcut : splitScheme? text.toList with _ | ⟨scheme, rest⟩
    · rw [hcut] at hvalid
      exact nomatch hvalid
    · rw [hcut] at hvalid
      -- The two parts of the scan make up the text again.
      have htext : text = String.ofList scheme ++ "://" ++ String.ofList rest := by
        have hscheme : (String.ofList scheme).toList = scheme := String.toList_ofList
        have hrest : (String.ofList rest).toList = rest := String.toList_ofList
        rw [← String.toList_inj, String.toList_append, String.toList_append, hscheme, hrest]
        exact eq_append_of_splitScheme? hcut
      refine ⟨String.ofList scheme, String.ofList rest, ?_⟩
      rw [htext, isUri_iff_checks, String.toList_ofList, String.toList_ofList]
      exact hvalid
  · rintro ⟨scheme, rest, huri⟩
    unfold isValid
    rw [huri.splitScheme?]
    rw [huri.parts] at huri
    exact (isUri_iff_checks scheme rest).mp huri

/-- The default surface is valid exactly if the name of the application has some
    characters, none of which is white space. -/
theorem isValid_forApp (appId : String) :
    (forApp appId).isValid = (!appId.isEmpty && !appId.toList.any isWhiteSpace) := by
  -- The first separator stands before the name, which may have one as well.
  have hscheme : splitScheme? (forApp appId).uri.toList
      = some ("mobileapp".toList, appId.toList) := by
    rw [forApp, appScheme, String.toList_append]
    rfl
  have hempty : appId.toList.isEmpty = appId.isEmpty := by
    rw [Bool.eq_iff_iff, List.isEmpty_iff, String.toList_eq_nil_iff, String.isEmpty_iff]
  have hchars : "mobileapp".toList.all isSchemeChar = true := by decide
  rw [isValid, hscheme]
  dsimp only
  rw [hchars, hempty, Bool.and_true]
  rfl

theorem isValid_forApp_iff (appId : String) :
    (forApp appId).isValid = true ↔ appId ≠ "" ∧ ¬HasWhiteSpace appId := by
  rw [isValid_forApp, Bool.and_eq_true, Bool.not_eq_true', Bool.not_eq_true',
    any_isWhiteSpace_eq_false_iff, ← Bool.not_eq_true, String.isEmpty_iff]

/-- A surface at a path is the default surface of the name followed by the path. -/
theorem fromPath_eq_forApp (appId : String) {path : String} (h : path ≠ "") :
    fromPath appId path = forApp (appId ++ "/" ++ withoutSlashes path) := by
  have hempty : ¬path.isEmpty = true := fun hempty => h (String.isEmpty_iff.mp hempty)
  rw [fromPath, if_neg hempty]
  simp only [forApp, withoutSlashes, String.append_assoc]

theorem fromPath_empty (appId : String) : fromPath appId "" = ⟨""⟩ := rfl

/-- A surface at a path has a slash behind the name, so it has a rest in any case. -/
theorem isValid_fromPath_iff (appId path : String) :
    (fromPath appId path).isValid = true
      ↔ path ≠ "" ∧ ¬HasWhiteSpace appId ∧ ¬HasWhiteSpace path := by
  by_cases hpath : path = ""
  · subst hpath
    rw [fromPath_empty]
    constructor
    · exact fun h => absurd h (by decide)
    · exact fun h => absurd rfl h.1
  · have hslash : ¬HasWhiteSpace "/" := by
      rintro ⟨c, hc, hwhite⟩
      rw [List.mem_singleton.mp hc] at hwhite
      exact absurd hwhite (by decide)
    -- With a path there is a slash, so the name of the surface is not empty.
    have hname : appId ++ "/" ++ withoutSlashes path ≠ "" := by
      simp only [ne_eq, String.append_eq_empty_iff, not_and]
      exact fun hname => absurd hname.2 (by decide)
    rw [fromPath_eq_forApp appId hpath, isValid_forApp_iff, hasWhiteSpace_append,
      hasWhiteSpace_append, hasWhiteSpace_withoutSlashes]
    simp only [hname, hpath, hslash, ne_eq, not_false_eq_true, true_and, or_false, not_or]

/-- Two paths of which the first is not all slashes name the same surface exactly if
    they differ in nothing but leading slashes. -/
theorem fromPath_eq_iff (appId : String) {path : String} (h : ∃ c ∈ path.toList, c ≠ '/')
    (other : String) :
    fromPath appId path = fromPath appId other ↔ withoutSlashes path = withoutSlashes other := by
  have hrest : withoutSlashes path ≠ "" := by
    rw [ne_eq, withoutSlashes_eq_empty_iff]
    rcases h with ⟨c, hc, hne⟩
    exact fun hall => hne (hall c hc)
  have hpath : path ≠ "" := by
    rintro rfl
    exact hrest rfl
  by_cases hother : other = ""
  · -- Without a path there is no surface, and a text that is not empty is another one.
    subst hother
    constructor
    · intro heq
      have huri : appScheme ++ (appId ++ "/" ++ withoutSlashes path) = "" := by
        rw [fromPath_eq_forApp appId hpath, fromPath_empty] at heq
        exact congrArg Surface.uri heq
      exact absurd (String.append_eq_empty_iff.mp huri).1 (by decide)
    · exact fun heq => absurd heq hrest
  · rw [fromPath_eq_forApp appId hpath, fromPath_eq_forApp appId hother]
    simp only [forApp, Surface.mk.injEq, String.append_right_inj]

/-- A surface is valid exactly if its text is a scheme, the separator and a rest. The
    surface at a path is valid exactly if there is a path and no white space in it or
    in the name, and the default surface exactly if there is a name and no white space
    in it. Of a path that is not all slashes, all but the leading slashes counts. -/
theorem valid_exactly_in_grammar :
    (∀ text, (Surface.mk text).isValid = true ↔ ∃ scheme rest, IsUri scheme rest text)
      ∧ (∀ appId path, (fromPath appId path).isValid = true
          ↔ path ≠ "" ∧ ¬HasWhiteSpace appId ∧ ¬HasWhiteSpace path)
      ∧ (∀ appId, (forApp appId).isValid = true ↔ appId ≠ "" ∧ ¬HasWhiteSpace appId)
      ∧ ∀ appId path other, (∃ c ∈ path.toList, c ≠ '/') →
          (fromPath appId path = fromPath appId other
            ↔ withoutSlashes path = withoutSlashes other) :=
  ⟨isValid_iff, isValid_fromPath_iff, isValid_forApp_iff,
    fun appId _ other h => fromPath_eq_iff appId h other⟩

/-- A text with two separators is cut at the first one, and slashes in front of a path
    make no other surface. -/
theorem second_separator_and_leading_slashes :
    (Surface.mk "web://example.com/page://x").isValid = true
      ∧ (∃ c ∈ "//promos/home".toList, c ≠ '/')
      ∧ fromPath "com.example" "//promos/home" = fromPath "com.example" "promos/home"
      ∧ fromPath "com.example" "//promos/home" ≠ fromPath "com.example" "///" := by
  have hpath : ∃ c ∈ "//promos/home".toList, c ≠ '/' := ⟨'p', by decide, by decide⟩
  have hwhite : ¬HasWhiteSpace "example.com/page://x" :=
    (any_isWhiteSpace_eq_false_iff _).mp (by decide)
  have hscheme : "web".toList.all isSchemeChar = true := by decide
  have huri : IsUri "web" "example.com/page://x" "web://example.com/page://x" :=
    ⟨by decide, by decide, fun c hc => (isSchemeChar_iff c).mp (List.all_eq_true.mp hscheme c hc),
      by decide, hwhite⟩
  obtain ⟨hvalid, _, _, hslashes⟩ := valid_exactly_in_grammar
  refine ⟨(hvalid _).mpr ⟨_, _, huri⟩, hpath, (hslashes _ _ _ hpath).mpr (by decide), ?_⟩
  exact fun heq => absurd ((hslashes _ _ _ hpath).mp heq) (by decide)

end Surface

end Decisioning
