import PlainTerminal.Path
import PlainTerminal.Proofs.Text.Words

/-!
# Canonical paths and their segments

A path and its canonical form lead to the same segments, and a canonical path is nothing but its
segments written out. So a question about the text of a canonical path, such as whether it lies
below a directory, is a question about lists of segments.
-/

namespace PlainTerminal.Path

/-- No piece of a path has a slash in it. -/
theorem slash_notMem_of_mem_pieces {path piece : String} (h : piece ∈ pieces path) :
    '/' ∉ piece.toList := by
  obtain ⟨s, hs, rfl⟩ := List.mem_map.mp h
  rw [String.toList_ofList]
  intro hslash
  rw [List.splitOn_eq_splitOnP] at hs
  have := Text.of_mem_splitOnP hs '/' hslash
  simp at this

theorem push_isSegment {above : List String} {piece : String} (habove : ∀ s ∈ above, IsSegment s)
    (hpiece : '/' ∉ piece.toList) : ∀ s ∈ push above piece, IsSegment s := by
  unfold push
  split
  · exact habove
  · rename_i hdot
    split
    · exact fun s hs => habove s (List.mem_of_mem_tail hs)
    · rename_i hup
      intro s hs
      rcases List.mem_cons.mp hs with rfl | hs
      · exact ⟨fun h => hdot (Or.inl h), fun h => hdot (Or.inr h), hup, hpiece⟩
      · exact habove s hs

theorem foldl_push_isSegment {given above : List String} (habove : ∀ s ∈ above, IsSegment s)
    (hgiven : ∀ piece ∈ given, '/' ∉ piece.toList) :
    ∀ s ∈ given.foldl push above, IsSegment s := by
  induction given generalizing above with
  | nil => exact habove
  | cons piece given ih =>
      exact ih (push_isSegment habove (hgiven piece (List.mem_cons_self ..)))
        fun q hq => hgiven q (List.mem_cons_of_mem _ hq)

/-- Segments are what can stand between two slashes. -/
theorem isSegment_of_mem_segments {base path s : String} (h : s ∈ segments base path) :
    IsSegment s :=
  foldl_push_isSegment (fun _ hs => by cases hs) (fun _ => slash_notMem_of_mem_pieces) s
    (List.mem_reverse.mp h)

/-- What resolving a path gives is canonical. -/
theorem isCanonical_normalize (base path : String) : IsCanonical (normalize base path) :=
  ⟨segments base path, fun _ => isSegment_of_mem_segments, rfl⟩

/-! ## Segments of a canonical path -/

theorem foldl_push_segments {segs above : List String} (h : ∀ s ∈ segs, IsSegment s) :
    segs.foldl push above = segs.reverse ++ above := by
  induction segs generalizing above with
  | nil => rfl
  | cons s segs ih =>
      obtain ⟨hempty, hdot, hup, _⟩ := h s (List.mem_cons_self ..)
      have hpush : push above s = s :: above := by
        rw [push, if_neg (by simp [hempty, hdot]), if_neg hup]
      rw [List.foldl_cons, hpush, ih fun q hq => h q (List.mem_cons_of_mem _ hq)]
      simp

theorem toList_render {segs : List String} (h : segs ≠ []) :
    (render segs).toList = '/' :: ['/'].intercalate (segs.map String.toList) := by
  rw [render, if_neg h, String.toList_append, String.toList_intercalate]
  rfl

theorem pieces_render {segs : List String} (hne : segs ≠ []) (h : ∀ s ∈ segs, IsSegment s) :
    pieces (render segs) = "" :: segs := by
  have hslash : ∀ l ∈ segs.map String.toList, '/' ∉ l := by
    intro l hl
    obtain ⟨s, hs, rfl⟩ := List.mem_map.mp hl
    exact (h s hs).2.2.2
  rw [pieces, toList_render hne, ← List.nil_append ('/' :: _),
    List.splitOn_append_cons_self_of_not_mem (by simp),
    List.splitOn_intercalate '/' hslash (by simpa using hne), List.map_cons, List.map_map]
  simp [Function.comp_def]

/-- A canonical path has the segments that it is written from. -/
theorem segments_render {segs : List String} (base : String) (h : ∀ s ∈ segs, IsSegment s) :
    segments base (render segs) = segs := by
  by_cases hne : segs = []
  · -- The root is one slash, with nothing on either side.
    subst hne
    rw [segments, join, if_pos (by decide)]
    decide
  · have habs : isAbsolute (render segs) = true := by
      rw [isAbsolute, toList_render hne]
      rfl
    rw [segments, join, if_pos habs, pieces_render hne h, List.foldl_cons,
      show push [] "" = [] from rfl, foldl_push_segments h]
    simp

/-- Resolving again changes nothing. -/
theorem segments_normalize (base' base path : String) :
    segments base' (normalize base path) = segments base path :=
  segments_render base' fun _ => isSegment_of_mem_segments

theorem IsCanonical.render_segments {path : String} (h : IsCanonical path) (base : String) :
    render (segments base path) = path := by
  obtain ⟨segs, hsegs, rfl⟩ := h
  rw [segments_render base hsegs]

/-- A path is canonical if to resolve it changes nothing. -/
theorem isCanonical_iff {path : String} : IsCanonical path ↔ normalize "/" path = path := by
  constructor
  · intro h
    exact h.render_segments "/"
  · intro h
    rw [← h]
    exact isCanonical_normalize "/" path

theorem IsCanonical.isAbsolute {path : String} (h : IsCanonical path) : isAbsolute path = true := by
  obtain ⟨segs, -, rfl⟩ := h
  by_cases hsegs : segs = []
  · subst hsegs
    decide
  · rw [Path.isAbsolute, toList_render hsegs]
    rfl

theorem render_injective {a b : List String} (ha : ∀ s ∈ a, IsSegment s)
    (hb : ∀ s ∈ b, IsSegment s) (h : render a = render b) : a = b := by
  rw [← segments_render "/" ha, h, segments_render "/" hb]

/-! ## Lying below a directory -/

theorem pieces_append (a b : List Char) :
    pieces (String.ofList (a ++ '/' :: b))
      = pieces (String.ofList a) ++ pieces (String.ofList b) := by
  simp only [pieces, String.toList_ofList, List.splitOn_append_cons_self, List.map_append]

theorem render_append {a b : List String} (ha : a ≠ []) (hb : b ≠ []) :
    render (a ++ b) = render a ++ "/" ++ "/".intercalate b := by
  rw [render, if_neg (by simp [ha]), render, if_neg ha,
    String.intercalate_append_of_ne_nil ha hb]
  simp only [String.append_assoc]

/-- On canonical paths, to be or to lie below a directory is to begin with its segments. -/
theorem isWithin_render_iff {dir segs : List String} (hne : dir ≠ [])
    (hdir : ∀ s ∈ dir, IsSegment s) (hsegs : ∀ s ∈ segs, IsSegment s) :
    isWithin (render dir) (render segs) = true ↔ dir <+: segs := by
  rw [isWithin, Bool.or_eq_true, beq_iff_eq, List.isPrefixOf_iff_prefix]
  constructor
  · rintro (heq | ⟨rest, hrest⟩)
    · exact (render_injective hsegs hdir heq) ▸ List.prefix_refl dir
    · have hsegs_ne : segs ≠ [] := by
        rintro rfl
        have hlen := congrArg List.length hrest
        rw [String.toList_append, toList_render hne] at hlen
        have hone : (render []).toList.length = 1 := by decide
        have hslash : "/".toList.length = 1 := by decide
        simp only [List.length_append, List.length_cons] at hlen
        omega
      -- A prefix that ends before a slash is a prefix of the list of pieces.
      have hpieces : pieces (render segs) = pieces (render dir) ++ pieces (String.ofList rest) := by
        rw [← String.ofList_toList (s := render segs), ← hrest,
          ← String.ofList_toList (s := render dir), ← pieces_append, String.ofList_toList,
          String.toList_append, List.append_assoc]
        rfl
      rw [pieces_render hsegs_ne hsegs, pieces_render hne hdir, List.cons_append] at hpieces
      exact ⟨_, (List.cons.inj hpieces).2.symm⟩
  · rintro ⟨below, rfl⟩
    by_cases hbelow : below = []
    · exact Or.inl (by rw [hbelow, List.append_nil])
    · refine Or.inr ⟨("/".intercalate below).toList, ?_⟩
      rw [render_append hne hbelow]
      simp only [String.toList_append]

theorem IsCanonical.isWithin_iff {path : String} {dir : List String} (h : IsCanonical path)
    (hne : dir ≠ []) (hdir : ∀ s ∈ dir, IsSegment s) :
    isWithin (render dir) path = true ↔ dir <+: segments "/" path := by
  obtain ⟨segs, hsegs, rfl⟩ := h
  rw [isWithin_render_iff hne hdir hsegs, segments_render "/" hsegs]

/-! ## Paths seen from a base -/

/-- How many of the segments above them pieces take away, when `depth` segments of their own come
first: a `..` takes away the last of these, and one from above when there is none left. -/
def climb (depth : Nat) : List String → Nat
  | [] => 0
  | piece :: rest =>
    if piece = "" ∨ piece = "." then climb depth rest
    else if piece = ".." then if depth = 0 then climb 0 rest + 1 else climb (depth - 1) rest
    else climb (depth + 1) rest

/-- What a path does to the segments above it is to take the last ones away that it climbs. -/
theorem foldl_push_append (given top above : List String) :
    given.foldl push (top ++ above)
      = given.foldl push top ++ above.drop (climb top.length given) := by
  induction given generalizing top above with
  | nil => rfl
  | cons piece given ih =>
      rw [List.foldl_cons, List.foldl_cons]
      by_cases hdot : piece = "" ∨ piece = "."
      · rw [push, if_pos hdot, push, if_pos hdot, climb, if_pos hdot]
        exact ih top above
      · by_cases hup : piece = ".."
        · rw [push, if_neg hdot, if_pos hup, push, if_neg hdot, if_pos hup, climb, if_neg hdot,
            if_pos hup]
          cases top with
          | nil =>
              -- nothing of the path's own is left to take away
              have habove := ih [] (above.drop 1)
              rw [List.nil_append, List.drop_drop] at habove
              rw [List.nil_append, ← List.drop_one, habove, List.length_nil, if_pos rfl,
                Nat.add_comm]
              rfl
          | cons last top =>
              rw [if_neg (by simp)]
              exact ih top above
        · rw [push, if_neg hdot, if_neg hup, push, if_neg hdot, if_neg hup, climb, if_neg hdot,
            if_neg hup]
          exact ih (piece :: top) above

/-- An empty piece counts for nothing. -/
theorem pieces_append_slash (s : List Char) :
    pieces (String.ofList (s ++ ['/'])) = pieces (String.ofList s) ++ [""] := by
  rw [pieces_append]
  rfl

/-- What stripping takes away at the end of a path. -/
theorem exists_replicate_slash (path : String) :
    ∃ n, path.toList = (withoutEndSlashes path).toList ++ List.replicate n '/' := by
  have hsplit := List.takeWhile_append_dropWhile (p := (· == '/')) (l := path.toList.reverse)
  have hslashes : path.toList.reverse.takeWhile (· == '/')
      = List.replicate (path.toList.reverse.takeWhile (· == '/')).length '/' :=
    List.eq_replicate_iff.mpr ⟨rfl, fun c hc => by simpa using List.mem_takeWhile_imp hc⟩
  refine ⟨(path.toList.reverse.takeWhile (· == '/')).length, ?_⟩
  rw [withoutEndSlashes, String.toList_ofList, ← List.reverse_replicate, ← hslashes,
    ← List.reverse_append, hsplit, List.reverse_reverse]

/-- Slashes at the end count for nothing. -/
theorem foldl_push_withoutEndSlashes (path : String) (above : List String) :
    (pieces (withoutEndSlashes path)).foldl push above = (pieces path).foldl push above := by
  have hslashes : ∀ (s : List Char) (n : Nat),
      (pieces (String.ofList (s ++ List.replicate n '/'))).foldl push above
        = (pieces (String.ofList s)).foldl push above := by
    intro s n
    induction n with
    | zero => rw [List.replicate_zero, List.append_nil]
    | succ n ih =>
        rw [List.replicate_succ', ← List.append_assoc, pieces_append_slash, List.foldl_append, ih]
        rfl
  obtain ⟨n, hn⟩ := exists_replicate_slash path
  have hend := hslashes (withoutEndSlashes path).toList n
  rw [← hn, String.ofList_toList, String.ofList_toList] at hend
  exact hend.symm

theorem toList_join (before path : String) :
    (before ++ "/" ++ path).toList = before.toList ++ '/' :: path.toList := by
  rw [String.toList_append, String.toList_append, List.append_assoc]
  rfl

/-- With a slash between them, two paths have the pieces of each. -/
theorem pieces_join (before path : String) :
    pieces (before ++ "/" ++ path) = pieces before ++ pieces path := by
  rw [← String.ofList_toList (s := before ++ "/" ++ path), toList_join, pieces_append,
    String.ofList_toList, String.ofList_toList]

/-- A path behind its base goes on from the segments of the base. -/
theorem foldl_push_join (base path : String) (above : List String) :
    (pieces (withoutEndSlashes base ++ "/" ++ path)).foldl push above
      = (pieces path).foldl push ((pieces base).foldl push above) := by
  rw [pieces_join, List.foldl_append, foldl_push_withoutEndSlashes]

/-- A path starts from the segments of its base, or from the root. -/
theorem segments_eq (base path : String) : segments base path
    = ((pieces path).foldl push
        (if isAbsolute path then [] else (pieces base).foldl push [])).reverse := by
  unfold segments join
  split
  · rfl
  · rw [foldl_push_join]

/-- Seen from the root, a path is all there is. -/
theorem segments_from_root (path : String) :
    segments "/" path = ((pieces path).foldl push []).reverse := by
  have hroot : (pieces "/").foldl push [] = [] := by decide
  rw [segments_eq, hroot, ite_self]

/-- What is left of a path without the slashes at its end begins as the path does. -/
theorem head?_of_withoutEndSlashes {path : String} {c : Char}
    (h : (withoutEndSlashes path).toList.head? = some c) : path.toList.head? = some c := by
  obtain ⟨n, hn⟩ := exists_replicate_slash path
  rw [hn, List.head?_append, h]
  rfl

/-- A path that does not begin with a slash means the same without the slashes at its end. -/
theorem normalize_withoutEndSlashes {path : String} {c : Char}
    (h : (withoutEndSlashes path).toList.head? = some c) (hc : c ≠ '/') (base : String) :
    normalize base (withoutEndSlashes path) = normalize base path := by
  have hrelative : ∀ path : String, path.toList.head? = some c → ¬ isAbsolute path = true := by
    intro path hpath
    rw [isAbsolute, hpath, beq_iff_eq, Option.some.injEq]
    exact hc
  unfold normalize
  rw [segments_eq, segments_eq, if_neg (hrelative _ h),
    if_neg (hrelative _ (head?_of_withoutEndSlashes h)), foldl_push_withoutEndSlashes]

/-- A path behind an absolute one is absolute. -/
theorem isAbsolute_join {base : String} (h : isAbsolute base = true) (path : String) :
    isAbsolute (withoutEndSlashes base ++ "/" ++ path) = true := by
  obtain ⟨n, hn⟩ := exists_replicate_slash base
  unfold isAbsolute at h ⊢
  rw [toList_join]
  rw [hn] at h
  cases hbase : (withoutEndSlashes base).toList with
  | nil => rfl
  | cons c rest =>
      rw [hbase] at h
      exact h

/-- How many segments of a base stay in front of an absolute path that is put behind it: those that
the path does not climb out of. -/
def kept (base path : String) : Nat :=
  if isAbsolute path then (segments "/" base).length - climb 0 (pieces path) else 0

/-- The segments of a path behind an absolute one: those of the path itself as it is seen from
there, after the segments of the base that are kept if the path begins at the root. -/
theorem segments_join {base : String} (h : isAbsolute base = true) (above path : String) :
    segments above (withoutEndSlashes base ++ "/" ++ path)
      = (segments "/" base).take (kept base path) ++ segments base path := by
  unfold kept
  rw [segments_eq above, if_pos (isAbsolute_join h path), foldl_push_join, segments_eq base path,
    segments_eq "/" base, if_pos h]
  split
  · have happend := foldl_push_append (pieces path) [] ((pieces base).foldl push [])
    rw [List.nil_append, List.length_nil] at happend
    rw [happend, List.reverse_append, List.reverse_drop, List.length_reverse]
  · rw [List.take_zero, List.nil_append]

/-- To stay is to go where one is. -/
theorem segments_dot (base : String) : segments base "." = segments "/" base := by
  have hdot : pieces "." = ["."] := by decide
  rw [segments_eq base ".", segments_from_root, hdot, if_neg (by decide), List.foldl_cons,
    List.foldl_nil]
  rfl

/-- To name nothing is to stay. -/
theorem segments_empty (base : String) : segments base "" = segments "/" base := by
  have hempty :
      (pieces "").foldl push ((pieces base).foldl push []) = (pieces base).foldl push [] := by
    have hpieces : pieces "" = [""] := by decide
    rw [hpieces, List.foldl_cons, List.foldl_nil]
    rfl
  rw [segments_eq base "", segments_from_root, if_neg (by decide), hempty]

/-! ## One path behind another -/

/-- A path behind one that is not empty begins at the root if that one does. -/
theorem isAbsolute_append {path : String} (h : path ≠ "") (next : String) :
    isAbsolute (path ++ "/" ++ next) = isAbsolute path := by
  have hne : path.toList ≠ [] := mt String.toList_eq_nil_iff.mp h
  rw [isAbsolute, isAbsolute, toList_join, List.head?_append_of_ne_nil _ hne]

/-- From where a path leads, a relative one goes on from the segments of that path. -/
theorem segments_of_relative {next : String} (h : isAbsolute next = false) (base path : String) :
    segments (normalize base path) next
      = ((pieces next).foldl push (segments base path).reverse).reverse := by
  have hbase : (pieces (normalize base path)).foldl push [] = (segments base path).reverse := by
    rw [← segments_normalize "/" base path, segments_from_root, List.reverse_reverse]
  rw [segments_eq, h, if_neg Bool.false_ne_true, hbase]

/-- To go to two places one after the other is to go to the second behind the first. -/
theorem segments_append {path next : String} (hpath : path ≠ "")
    (hnext : isAbsolute next = false) (base : String) :
    segments (normalize base path) next = segments base (path ++ "/" ++ next) := by
  rw [segments_of_relative hnext, segments_eq base path, segments_eq base (path ++ "/" ++ next),
    isAbsolute_append hpath, pieces_join, List.foldl_append, List.reverse_reverse]

/-- **To resolve a path gives a canonical one, and is done in one step or in two.** Canonical paths
stay as they are, from whatever base, and no others do. A relative path behind another path is
resolved from where that one leads. -/
theorem normalize_composes (base path : String) :
    IsCanonical (normalize base path) ∧
    (normalize base path = path ↔ IsCanonical path) ∧
    ∀ next, path ≠ "" → isAbsolute next = false →
      normalize (normalize base path) next = normalize base (path ++ "/" ++ next) := by
  refine ⟨isCanonical_normalize base path, ⟨fun hsame => ?_, fun h => ?_⟩, ?_⟩
  · rw [← hsame]
    exact isCanonical_normalize base path
  · exact h.render_segments base
  · intro next hpath hnext
    rw [normalize, segments_append hpath hnext, normalize]

/-- The second path may climb out of all that the first one went into, and beyond the base. -/
theorem normalize_composes_climbing : "docs/." ≠ "" ∧ isAbsolute "../.././../../etc//" = false ∧
    normalize (normalize "user/" "docs/.") "../.././../../etc//"
      = normalize "user/" "docs/./../.././../../etc//" ∧
    normalize "user/" "docs/./../.././../../etc//" = "/etc" :=
  ⟨by decide, by decide, (normalize_composes "user/" "docs/.").2.2 _ (by decide) (by decide),
    by decide +kernel⟩

/-! ## Blanks at the end of a path -/

/-- A piece without a slash is all there is of it. -/
theorem pieces_of_slash_notMem {s : List Char} (h : '/' ∉ s) :
    pieces (String.ofList s) = [String.ofList s] := by
  rw [pieces, String.toList_ofList, List.splitOn_eq_splitOnP, List.splitOnP_eq_singleton]
  · rfl
  · intro c hc
    rw [beq_eq_false_iff_ne]
    rintro rfl
    exact h hc

/-- A piece that ends with a blank is a segment. -/
theorem push_of_blank {above : List String} {s : List Char} {c : Char}
    (hlast : s.getLast? = some c) (hc : Text.isBlank c = true) :
    push above (String.ofList s) = String.ofList s :: above := by
  have hne : ∀ text : String, text.toList.getLast?.any Text.isBlank = false →
      String.ofList s ≠ text := by
    rintro _ htext rfl
    rw [String.toList_ofList, hlast, Option.any_some, hc] at htext
    cases htext
  rw [push, if_neg, if_neg]
  · exact hne ".." (by decide)
  · rintro (hempty | hdot)
    · exact hne "" (by decide) hempty
    · exact hne "." (by decide) hdot

/-- Whatever the last piece of a path is, the segments before the last one are from before it. -/
theorem dropLast_push_above (above : List String) (piece : String) :
    (push above piece).reverse.dropLast <+: above.reverse := by
  unfold push
  split
  · exact List.dropLast_prefix _
  · split
    · rw [← List.dropLast_reverse]
      exact (List.dropLast_prefix _).trans (List.dropLast_prefix _)
    · exact ⟨[], by rw [List.append_nil, List.reverse_cons, List.dropLast_concat]⟩

/-- An absolute path does not begin with a blank. -/
theorem exists_trim_of_isAbsolute {path : String} (h : isAbsolute path = true) :
    ∃ rest back, (Text.trim path).toList = '/' :: rest ∧ path.toList = '/' :: rest ++ back ∧
      ∀ c ∈ back, Text.isBlank c = true := by
  have hslash : ¬ Text.isBlank '/' = true := by decide
  obtain ⟨front, back, hsplit, hfront, hback⟩ := Text.stripChars_split Text.isBlank path.toList
  rw [Text.trim, String.toList_ofList]
  unfold isAbsolute at h
  rw [beq_iff_eq] at h
  generalize Text.stripChars Text.isBlank path.toList = kept at hsplit ⊢
  rw [hsplit] at h ⊢
  cases front with
  | cons c front =>
      obtain rfl : c = '/' := Option.some.inj h
      exact absurd (hfront '/' List.mem_cons_self) hslash
  | nil =>
      cases kept with
      | nil =>
          cases back with
          | nil => cases h
          | cons c back =>
              obtain rfl : c = '/' := Option.some.inj h
              exact absurd (hback '/' List.mem_cons_self) hslash
      | cons c kept =>
          obtain rfl : c = '/' := Option.some.inj h
          exact ⟨kept, back, rfl, rfl, hback⟩

/-- Blanks at the end of an absolute path change its last segment alone. -/
theorem dropLast_segments_trim {path : String} (h : isAbsolute path = true) (base base' : String) :
    (segments base (Text.trim path)).dropLast <+: segments base' path := by
  obtain ⟨rest, back, htrim, hpath, hback⟩ := exists_trim_of_isAbsolute h
  have habsolute : isAbsolute (Text.trim path) = true := by
    rw [isAbsolute, htrim]
    rfl
  -- the two paths are the same up to the last slash
  obtain ⟨last, before, hreverse, hlast⟩ :=
    List.eq_append_cons_of_mem (List.mem_reverse.mpr (List.mem_cons_self (a := '/') (l := rest)))
  have hcut : '/' :: rest = before.reverse ++ '/' :: last.reverse := by
    rw [← List.reverse_reverse ('/' :: rest), hreverse, List.reverse_append, List.reverse_cons,
      List.append_assoc]
    rfl
  have hend : '/' ∉ last.reverse ++ back := by
    rw [List.mem_append, List.mem_reverse, not_or]
    exact ⟨hlast, fun hmem => absurd (hback _ hmem) (by decide)⟩
  have hpieces : pieces (Text.trim path)
      = pieces (String.ofList before.reverse) ++ [String.ofList last.reverse] := by
    rw [← String.ofList_toList (s := Text.trim path), htrim, hcut, pieces_append,
      pieces_of_slash_notMem fun hmem => hlast (List.mem_reverse.mp hmem)]
  have hpieces' : pieces path
      = pieces (String.ofList before.reverse) ++ [String.ofList (last.reverse ++ back)] := by
    rw [← String.ofList_toList (s := path), hpath, hcut, List.append_assoc, List.cons_append,
      pieces_append, pieces_of_slash_notMem hend]
  rw [segments_eq, segments_eq, if_pos habsolute, if_pos h, hpieces, hpieces', List.foldl_append,
    List.foldl_append, List.foldl_cons, List.foldl_cons, List.foldl_nil, List.foldl_nil]
  by_cases hnone : back = []
  · rw [hnone, List.append_nil]
    exact List.dropLast_prefix _
  · have hblank : (last.reverse ++ back).getLast? = some (back.getLast hnone) := by
      rw [List.getLast?_append, List.getLast?_eq_some_getLast hnone, Option.some_or]
    rw [push_of_blank hblank (hback _ (List.getLast_mem hnone)), List.reverse_cons]
    exact (dropLast_push_above _ _).trans (List.prefix_append _ _)

end PlainTerminal.Path
