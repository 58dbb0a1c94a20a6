import SqlGuard.Command
import SqlGuard.Proofs.Octets

/-!
# The words that are commands

The words `exit`, `quit` and `help` are compared with the lower case of a line,
which is that of all of Unicode. Still only ASCII letters come to these words
(`smalls_eq_map_asciiSmall`): the one other character whose lower case is an
ASCII letter is the Kelvin sign, and none of the words has a `k`.

* `ofLine_query`: a text without blanks around it that is no such word in ASCII
  letters of any case is the statement of its line.
-/
namespace SqlGuard

open Text

/-! ## Lower case -/

/-- Every run of the table but two leads to characters beyond ASCII. -/
theorem smallRuns_image : ∀ r ∈ smallRuns, r = (0x41, 0x5A, 1, 0x61) ∨
    r = (0x212A, 0x212A, 1, 0x6B) ∨ 0x80 ≤ r.2.2.2 ∧ (r.2.2.2 + (r.2.1 - r.1) < 0xD800 ∨
      0xE000 ≤ r.2.2.2 ∧ r.2.2.2 + (r.2.1 - r.1) < 0x110000) := by
  decide +kernel

/-- The lower case of a character in the table: it is a capital ASCII letter, or it gives a `k`,
or it stays beyond ASCII. -/
theorem imageIn_smallRuns {n code : Nat} (h : imageIn smallRuns n = some code) :
    (0x41 ≤ n ∧ n ≤ 0x5A ∧ code = n + 32) ∨ code = 0x6B ∨
      0x80 ≤ code ∧ (Char.ofNat code).toNat = code := by
  obtain ⟨⟨first, last, stride, image⟩, hr, hcode⟩ := List.exists_of_findSome?_eq_some h
  dsimp only at hcode
  split at hcode
  · rename_i hn
    simp only [Option.some.injEq] at hcode
    rcases smallRuns_image _ hr with he | he | ⟨hlow, hvalid⟩
    · simp only [Prod.mk.injEq] at he
      exact .inl (by omega)
    · simp only [Prod.mk.injEq] at he
      exact .inr (.inl (by omega))
    · dsimp only at hlow hvalid
      exact .inr (.inr ⟨by omega, toNat_ofNat (by omega)⟩)
  · cases hcode

theorem small_eq_asciiSmall {c : Char} (h : ∀ d ∈ small c, d.toNat < 0x80 ∧ d ≠ 'k') :
    small c = [asciiSmall c] := by
  unfold small formIn at h ⊢
  split
  · rename_i word hw
    rw [hw] at h
    dsimp only at h
    simp only [smallWords, List.lookup_cons, List.lookup_nil] at hw
    split at hw
    · cases hw
      exact absurd (h (Char.ofNat 0x307) (by simp)).1 (by decide)
    · cases hw
  · rename_i hw
    rw [hw] at h
    dsimp only at h
    split
    · rename_i code hc
      rw [hc] at h
      obtain ⟨hlt, hk⟩ := h _ (List.mem_singleton.mpr rfl)
      rcases imageIn_smallRuns hc with ⟨h1, h2, rfl⟩ | rfl | ⟨h1, h2⟩
      · have hA : 'A' ≤ c ∧ c ≤ 'Z' := ⟨h1, h2⟩
        rw [asciiSmall, if_pos hA]
      · exact absurd rfl hk
      · omega
    · rename_i hc
      have hA : ¬('A' ≤ c ∧ c ≤ 'Z') := by
        rintro ⟨h1, h2⟩
        have h1' : 0x41 ≤ c.toNat := h1
        have h2' : c.toNat ≤ 0x5A := h2
        have := List.findSome?_eq_none_iff.mp hc (0x41, 0x5A, 1, 0x61) (.head _)
        simp [h1', h2', Nat.mod_one] at this
      rw [asciiSmall, if_neg hA]

theorem smalls_eq_map_asciiSmall {s : List Char} (h : ∀ d ∈ smalls s, d.toNat < 0x80 ∧ d ≠ 'k') :
    smalls s = s.map asciiSmall := by
  induction s with
  | nil => rfl
  | cons c s ih =>
    unfold smalls at h ih ⊢
    rw [List.flatMap_cons] at h ⊢
    rw [small_eq_asciiSmall fun d hd => h d (List.mem_append_left _ hd),
      ih fun d hd => h d (List.mem_append_right _ hd)]
    rfl

/-! ## Blanks -/

/-- Blanks behind a text without blanks around it are cut off. -/
theorem trim_append {s : List Char} {c : Char} (hs : trim s = s) (hne : s ≠ [])
    (hc : isBlank c = true) : trim (s ++ [c]) = s := by
  have hsub : trimStart s <:+ s := List.dropWhile_suffix isBlank
  have hstart : trimStart s = s := by
    refine hsub.eq_of_length_le ?_
    have : (trim s).length ≤ (trimStart s).length := by
      unfold trim trimEnd
      rw [List.length_reverse]
      have := (List.dropWhile_suffix (l := (trimStart s).reverse) isBlank).length_le
      rwa [List.length_reverse] at this
    rwa [hs] at this
  have hend : trimEnd s = s := by
    unfold trim at hs
    rwa [hstart] at hs
  have happ : trimStart (s ++ [c]) = s ++ [c] := by
    unfold trimStart at hstart ⊢
    rw [List.dropWhile_append, hstart, if_neg (by simpa using hne)]
  unfold trim
  rw [happ, trimEnd, List.reverse_append, List.reverse_singleton, List.singleton_append,
    List.dropWhile_cons_of_pos hc]
  exact hend

/-! ## Statements -/

/-- A text without blanks around it is the statement of its line, unless it is a command. -/
theorem ofLine_query {sql : String} (htrim : trim sql.toList = sql.toList) (hne : sql ≠ "")
    (hword : String.ofList (sql.toList.map asciiSmall) ∉ ["exit", "quit", "help"]) :
    Command.ofLine (sql ++ "\n") = .query sql := by
  have hne' : sql.toList ≠ [] := by simpa using hne
  have ht : trim (sql ++ "\n").toList = sql.toList := by
    rw [String.toList_append]
    exact trim_append htrim hne' (by decide)
  have hno (word : String) (hw : word.toList.all (fun d => d.toNat < 0x80 ∧ d ≠ 'k') = true)
      (hm : word ∈ ["exit", "quit", "help"]) : String.ofList (smalls sql.toList) ≠ word := by
    rintro rfl
    rw [String.toList_ofList] at hw
    rw [smalls_eq_map_asciiSmall fun d hd => of_decide_eq_true (List.all_eq_true.mp hw d hd)] at hm
    exact hword hm
  unfold Command.ofLine
  dsimp only
  rw [ht, if_neg (by simpa using hne'), if_neg, if_neg, String.ofList_toList]
  · exact hno "help" rfl (by simp)
  · rintro (h | h)
    · exact hno "exit" rfl (by simp) h
    · exact hno "quit" rfl (by simp) h

end SqlGuard
