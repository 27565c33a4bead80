import GrowthScan.Proofs.Declaration.Lines

/-!
# The search for the first declaration

A line that is searched on its own declares what it declares in its text, but for its
number (`Declaration.onLine?_eq`). So the search of a text is the search of its lines one after
another (`Declaration.find?_eq_findSome?`), and of two texts with a line feed in between
the second is searched where nothing is found in the first (`Declaration.find?_append_cons`).
-/

namespace GrowthScan

theorem findSome?_congr {f g : α → Option β} {l : List α} (h : ∀ a ∈ l, f a = g a) :
    l.findSome? f = l.findSome? g := by
  induction l with
  | nil => rfl
  | cons a l ih =>
    obtain ⟨ha, hl⟩ := List.forall_mem_cons.mp h
    rw [List.findSome?_cons, List.findSome?_cons, ha, ih hl]

namespace Text

/-- There is one piece more than there are line feeds. -/
theorem length_splitOn (s : List Char) : (s.splitOn '\n').length = s.count '\n' + 1 := by
  induction s using line_induction with
  | line l hl => rw [List.splitOn_eq_singleton hl, List.count_eq_zero_of_not_mem hl]; rfl
  | append l s hl ih =>
    rw [List.splitOn_append_cons_self_of_not_mem hl, List.length_cons, ih, List.count_append,
      List.count_eq_zero_of_not_mem hl, List.count_cons_self, Nat.zero_add]

end Text

namespace Declaration

/-- The declaration with `n` more lines in front of it. -/
def below (n : Nat) (d : Declaration) : Declaration := { d with line := d.line + n }

theorem below_add (m n : Nat) (d : Declaration) : d.below (m + n) = (d.below m).below n := by
  rw [below, below, below, Nat.add_assoc]

theorem ofHeader_eq (i : Nat) (h : Header) : ofHeader i h = (ofHeader 0 h).below i := by
  rw [below, ofHeader, ofHeader, Nat.zero_add]

theorem find?_of_not_mem {l : List Char} (hl : '\n' ∉ l) : find? l = onLine? 0 l := by
  have hfind := find?_joinLines (List.forall_mem_singleton.mpr hl)
  rw [Text.joinLines_singleton, List.zipIdx_singleton, List.findSome?_singleton] at hfind
  exact hfind

/-- A line declares on its own what it declares as line `i` of a text. -/
theorem onLine?_eq {l : List Char} (hl : '\n' ∉ l) (i : Nat) :
    onLine? i l = (find? l).map (below i) := by
  rw [find?_of_not_mem hl, onLine?, onLine?, Option.map_map]
  exact congrArg (Option.map · _) (funext (ofHeader_eq i))

/-- A text declares what the first of its lines does that declares anything on its own. -/
theorem find?_eq_findSome? (code : List Char) :
    find? code = (code.splitOn '\n').zipIdx.findSome? fun p => (find? p.1).map (below p.2) := by
  have hlines := Text.not_mem_of_mem_splitOn code
  have hcode : Text.joinLines (code.splitOn '\n') = code := List.intercalate_splitOn '\n'
  calc find? code
    _ = find? (Text.joinLines (code.splitOn '\n')) := by rw [hcode]
    _ = (code.splitOn '\n').zipIdx.findSome? fun p => onLine? p.2 p.1 := find?_joinLines hlines
    _ = (code.splitOn '\n').zipIdx.findSome? fun p => (find? p.1).map (below p.2) :=
      findSome?_congr fun p hp => onLine?_eq (hlines _ (List.fst_mem_of_mem_zipIdx hp)) p.2

/-- Behind a text without a declaration the search goes on, and the lines of that text count. -/
theorem find?_append_cons (a b : List Char) :
    find? (a ++ '\n' :: b) = (find? a).or ((find? b).map (below (a.count '\n' + 1))) := by
  have hbehind (n : Nat) : ((b.splitOn '\n').zipIdx n).findSome?
      (fun p => (find? p.1).map (below p.2)) = (find? b).map (below n) := by
    rw [find?_eq_findSome? b, List.map_findSome?, ← Nat.add_zero n,
      ← List.map_snd_add_zipIdx_eq_zipIdx, List.findSome?_map]
    refine findSome?_congr fun p _ => ?_
    rw [Function.comp_apply, Function.comp_apply, Option.map_map]
    exact congrArg (Option.map · _) (funext (below_add p.2 n))
  rw [find?_eq_findSome? (a ++ '\n' :: b), List.splitOn_append_cons_self, List.zipIdx_append,
    List.findSome?_append, ← find?_eq_findSome? a, Text.length_splitOn, Nat.zero_add, hbehind]

/-- The search goes line by line, and what it finds first counts, whatever follows on later
lines. -/
theorem search_lineByLine (a b : List Char) :
    find? (a ++ '\n' :: b) = (find? a).or ((find? b).map (below (1 + a.count '\n'))) ∧
      (find? a = (a.splitOn '\n').zipIdx.findSome? fun p => (find? p.1).map (below p.2)) ∧
      (find? a ≠ none → find? (a ++ '\n' :: b) = find? a) := by
  refine ⟨?_, find?_eq_findSome? a, fun ha => ?_⟩
  · rw [find?_append_cons, Nat.add_comm]
  · obtain ⟨d, hd⟩ := Option.ne_none_iff_exists'.mp ha
    rw [find?_append_cons, hd, Option.some_or]

/-- A keyword leads the second header, and type words the first, which counts. -/
theorem search_lineByLine_typed :
    let a := "std::string s = f(x);\nNode* walk(Node* n)\n  return n;".toList
    let b := "int depth(Node* n)".toList
    find? a ≠ none ∧ find? (a ++ '\n' :: b) = find? a ∧
      find? a = some ⟨"walk".toList, 1, true⟩ := by
  intro a b
  have hfind : find? a = some ⟨"walk".toList, 1, true⟩ := by decide +kernel
  have ha : find? a ≠ none := by rw [hfind]; exact Option.some_ne_none _
  exact ⟨ha, (search_lineByLine a b).2.2 ha, hfind⟩

end Declaration

end GrowthScan
