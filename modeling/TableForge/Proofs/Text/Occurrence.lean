import TableForge.Proofs.Text.Join
import TableForge.Proofs.Text.Lines
import TableForge.Proofs.Text.Quoted
import Mathlib.Data.List.Infix

-- Where a pattern occurs in a text that is put together from parts.
namespace TableForge

section Parts

variable {α : Type} {pattern s t : List α} {c : α}

theorem prefix_append_cons_iff (hc : c ∉ pattern) :
    pattern <+: s ++ c :: t ↔ pattern <+: s := by
  induction s generalizing pattern with
  | nil =>
    cases pattern with
    | nil => simp
    | cons d pattern =>
      have hd : d ≠ c := fun hd => hc (hd ▸ List.mem_cons_self)
      simp [List.cons_prefix_cons, hd]
  | cons e s ih =>
    cases pattern with
    | nil => simp
    | cons d pattern =>
      have hrest : c ∉ pattern := fun h => hc (List.mem_cons_of_mem _ h)
      rw [List.cons_append, List.cons_prefix_cons, List.cons_prefix_cons, ih hrest]

-- An element that the pattern does not have keeps its two sides apart.
theorem infix_append_cons_iff (hc : c ∉ pattern) :
    pattern <:+: s ++ c :: t ↔ pattern <:+: s ∨ pattern <:+: t := by
  induction s with
  | nil =>
    have hstart : pattern <+: c :: t ↔ pattern = [] := by
      rw [← List.prefix_nil]
      exact prefix_append_cons_iff (s := []) hc
    rw [List.nil_append, List.infix_cons_iff, hstart, List.infix_nil]
  | cons e s ih =>
    have hstart : pattern <+: e :: (s ++ c :: t) ↔ pattern <+: e :: s :=
      prefix_append_cons_iff (s := e :: s) hc
    rw [List.cons_append, List.infix_cons_iff, List.infix_cons_iff, ih, hstart, or_assoc]

-- An element that a text lacks keeps the pattern out of it.
theorem not_infix_of_not_mem (hc : c ∈ pattern) (hs : c ∉ s) : ¬pattern <:+: s :=
  fun h => hs (h.subset hc)

-- A part that begins and ends with elements that the pattern does not have, and lacks one that the
-- pattern has.
structure Fence (pattern part : List α) : Prop where
  first : ∃ c ∈ part.head?, c ∉ pattern
  last : ∃ c ∈ part.getLast?, c ∉ pattern
  lacking : ∃ c ∈ pattern, c ∉ part

instance [DecidableEq α] (pattern part : List α) : Decidable (Fence pattern part) :=
  decidable_of_iff ((∃ c ∈ part.head?, c ∉ pattern) ∧ (∃ c ∈ part.getLast?, c ∉ pattern) ∧
    ∃ c ∈ pattern, c ∉ part) ⟨fun ⟨h, h', h''⟩ => ⟨h, h', h''⟩, fun ⟨h, h', h''⟩ => ⟨h, h', h''⟩⟩

namespace Fence

variable {part : List α}

theorem not_infix (h : Fence pattern part) : ¬pattern <:+: part := by
  obtain ⟨c, hc, hpart⟩ := h.lacking
  exact not_infix_of_not_mem hc hpart

theorem not_infix_nil (h : Fence pattern part) : ¬pattern <:+: [] :=
  fun hin => h.not_infix (hin.trans List.nil_infix)

theorem infix_append_iff (h : Fence pattern part) :
    pattern <:+: s ++ (part ++ t) ↔ pattern <:+: s ∨ pattern <:+: t := by
  obtain ⟨c, hfirst, hc⟩ := h.first
  obtain ⟨d, hlast, hd⟩ := h.last
  obtain ⟨start, rfl⟩ := List.getLast?_eq_some_iff.mp hlast
  have hsplit : s ++ (start ++ [d] ++ t) = (s ++ start) ++ d :: t := by simp
  rw [hsplit, infix_append_cons_iff hd]
  cases start with
  | nil => rw [List.append_nil]
  | cons e start =>
    obtain rfl : e = c := by simpa using hfirst
    have hstart : ¬pattern <:+: start := fun hin =>
      h.not_infix (hin.trans (List.infix_append [e] start [d]))
    rw [infix_append_cons_iff hc, or_iff_left hstart]

theorem infix_start_iff (h : Fence pattern part) :
    pattern <:+: part ++ t ↔ pattern <:+: t := by
  have hparts := h.infix_append_iff (s := []) (t := t)
  rwa [List.nil_append, or_iff_right h.not_infix_nil] at hparts

theorem infix_end_iff (h : Fence pattern part) :
    pattern <:+: s ++ part ↔ pattern <:+: s := by
  have hparts := h.infix_append_iff (s := s) (t := [])
  rwa [List.append_nil, or_iff_left h.not_infix_nil] at hparts

theorem infix_intercalate_iff {items : List (List α)} (h : Fence pattern part) :
    pattern <:+: part.intercalate items ↔ ∃ item ∈ items, pattern <:+: item := by
  induction items with
  | nil => simp [List.intercalate_nil, h.not_infix_nil]
  | cons item rest ih =>
    cases rest with
    | nil => simp [List.intercalate_singleton]
    | cons next rest =>
      rw [List.intercalate_cons_cons, List.append_assoc, h.infix_append_iff, ih,
        List.exists_mem_cons_iff (a := item)]

end Fence

end Parts

section Characters

variable {pattern : List Char}

theorem infix_unlines_iff {lines : List String} (hne : pattern ≠ []) (hfeed : '\n' ∉ pattern) :
    pattern <:+: (Text.unlines lines).toList ↔ ∃ line ∈ lines, pattern <:+: line.toList := by
  rw [Text.toList_unlines]
  induction lines with
  | nil => simp [hne]
  | cons line rest ih =>
    rw [List.flatMap_cons, List.append_assoc, List.singleton_append, infix_append_cons_iff hfeed,
      ih, List.exists_mem_cons_iff]

theorem prefix_double_iff {q : Char} {s : List Char} (hq : q ∉ pattern) :
    pattern <+: Text.double q s ↔ pattern <+: s := by
  induction s generalizing pattern with
  | nil => rfl
  | cons c s ih =>
    by_cases hc : c = q
    · rw [hc, Text.double_cons_self]
      exact (prefix_append_cons_iff (s := []) hq).trans
        (prefix_append_cons_iff (s := []) hq).symm
    · rw [Text.double_cons_of_ne hc]
      cases pattern with
      | nil => simp
      | cons d pattern =>
        have hrest : q ∉ pattern := fun h => hq (List.mem_cons_of_mem _ h)
        rw [List.cons_prefix_cons, List.cons_prefix_cons, ih hrest]

-- Doubling a character that the pattern does not have neither makes nor breaks an occurrence.
theorem infix_double_iff {q : Char} {s : List Char} (hq : q ∉ pattern) :
    pattern <:+: Text.double q s ↔ pattern <:+: s := by
  induction s with
  | nil => rfl
  | cons c s ih =>
    by_cases hc : c = q
    · have hcut (rest : List Char) :
          pattern <:+: q :: rest ↔ pattern <:+: [] ∨ pattern <:+: rest :=
        infix_append_cons_iff (s := []) hq
      rw [hc, Text.double_cons_self, hcut, hcut, hcut, ih, or_self_left]
    · have hwhole : pattern <+: Text.double q (c :: s) ↔ pattern <+: c :: s :=
        prefix_double_iff hq
      rw [Text.double_cons_of_ne hc] at hwhole ⊢
      rw [List.infix_cons_iff, List.infix_cons_iff, hwhole, ih]

theorem infix_quote_iff {s : List Char} (hne : pattern ≠ []) (hq : '\'' ∉ pattern) :
    pattern <:+: Text.Quoted.quote s ↔ pattern <:+: s := by
  have hopen : pattern <:+: '\'' :: (Text.double '\'' s ++ ['\'']) ↔
      pattern <:+: [] ∨ pattern <:+: Text.double '\'' s ++ ['\''] :=
    infix_append_cons_iff (s := []) hq
  rw [Text.Quoted.quote, List.cons_append, hopen, infix_append_cons_iff hq, infix_double_iff hq]
  simp [hne]

end Characters

end TableForge
