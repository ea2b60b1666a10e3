import MetricsNode.Proofs.AddressText

/-!
# Address lists

`parseAddressList` cuts a text at every space, comma and semicolon and keeps, in order, the pieces
that are IP addresses. Here that is said without the library's splitting function. A text is
*cut at its separators* into pieces that hold no separator, each but the last followed by the one
separator that ends it. Every text has such a cut, and the list read is the addresses among its
pieces (`address_list_reads_pieces`).

Everything about the reader follows from one equation: a piece followed by a separator gives its
address, if it is one, and then the list read from the rest (`parseAddressList_piece`). The empty
piece is no address, so a run of separators gives nothing (`parseAddressList_run`).

With reading inverting writing and no address text holding a separator (`AddressText`), the
texts of any list of addresses, put between runs of separators, read back as that list.
-/

namespace MetricsNode

open Net

/-! ## Separators -/

/-- An address text holds no separator. -/
theorem isListSeparator_of_mem_text {a : IpAddr} {c : Char} (h : c ∈ a.text.toList) :
    isListSeparator c = false := by
  have hdigit : ∀ d < 16, isListSeparator d.digitChar = false := by decide
  rcases IpAddr.mem_text h with rfl | rfl | ⟨d, hd, rfl⟩
  · decide
  · decide
  · exact hdigit d hd

theorem IpAddr.ofString?_empty : IpAddr.ofString? "" = none := by decide

/-- `s` cut at its separators: the pieces, each but the last with the separator that ends it,
none holding a separator. -/
def CutAtSeparators (cs : List Char) (items : List (List Char × Char)) (last : List Char) : Prop :=
  (∀ p ∈ items, (∀ c ∈ p.1, isListSeparator c = false) ∧ isListSeparator p.2 = true) ∧
    (∀ c ∈ last, isListSeparator c = false) ∧ cs = items.flatMap (fun p => p.1 ++ [p.2]) ++ last

/-- Every text can be cut at its separators. -/
theorem exists_cutAtSeparators (cs : List Char) :
    ∃ items last, CutAtSeparators cs items last := by
  induction cs with
  | nil => exact ⟨[], [], by simp [CutAtSeparators]⟩
  | cons c cs ih =>
    obtain ⟨items, last, hitems, hlast, rfl⟩ := ih
    cases hc : isListSeparator c with
    | true =>
      -- a separator ends an empty piece
      refine ⟨([], c) :: items, last, ?_, hlast, by simp⟩
      intro p hp
      rcases List.mem_cons.1 hp with rfl | hp
      · exact ⟨by simp, hc⟩
      · exact hitems p hp
    | false =>
      -- any other character starts the first piece
      cases items with
      | nil =>
        refine ⟨[], c :: last, by simp, fun d hd => ?_, by simp⟩
        rcases List.mem_cons.1 hd with rfl | hd
        · exact hc
        · exact hlast d hd
      | cons p items =>
        refine ⟨(c :: p.1, p.2) :: items, last, ?_, hlast, by simp⟩
        intro q hq
        rcases List.mem_cons.1 hq with rfl | hq
        · have hp := hitems p List.mem_cons_self
          refine ⟨fun d hd => ?_, hp.2⟩
          rcases List.mem_cons.1 hd with rfl | hd
          · exact hc
          · exact hp.1 d hd
        · exact hitems q (List.mem_cons_of_mem _ hq)

/-! ## Reading a list -/

theorem filterMap_cons_eq_toList_append {α β : Type} (f : α → Option β) (a : α) (l : List α) :
    (a :: l).filterMap f = (f a).toList ++ l.filterMap f := by
  cases h : f a <;> simp [h]

/-- The empty piece is no address, so dropping the empty pieces first changes nothing. -/
theorem parseAddressList_eq_filterMap (s : String) :
    parseAddressList s =
      (s.toList.splitOnP isListSeparator).filterMap (fun w => IpAddr.ofString? (String.ofList w)) := by
  unfold parseAddressList
  rw [List.filterMap_filter]
  congr 1
  funext w
  by_cases hw : w = []
  · subst hw
    simp [IpAddr.ofString?_empty]
  · simp [hw]

/-- **A piece, then the rest.** A piece with no separator in it, followed by a separator, gives its
address, if it is one, and then the list read from the rest. -/
theorem parseAddressList_piece {w : List Char} (hw : ∀ c ∈ w, isListSeparator c = false) {c : Char}
    (hc : isListSeparator c = true) (rest : List Char) :
    parseAddressList (String.ofList (w ++ c :: rest)) =
      (IpAddr.ofString? (String.ofList w)).toList ++ parseAddressList (String.ofList rest) := by
  simp only [parseAddressList_eq_filterMap, String.toList_ofList,
    List.splitOnP_append_cons_of_forall_mem hw c hc rest, filterMap_cons_eq_toList_append]

/-- A last piece with no separator in it gives its address, if it is one. -/
theorem parseAddressList_last {w : List Char} (hw : ∀ c ∈ w, isListSeparator c = false) :
    parseAddressList (String.ofList w) = (IpAddr.ofString? (String.ofList w)).toList := by
  simp only [parseAddressList_eq_filterMap, String.toList_ofList, List.splitOnP_eq_singleton hw,
    filterMap_cons_eq_toList_append, List.filterMap_nil, List.append_nil]

/-- A run of separators gives nothing. -/
theorem parseAddressList_run {run : List Char} (hrun : ∀ c ∈ run, isListSeparator c = true)
    (rest : List Char) :
    parseAddressList (String.ofList (run ++ rest)) = parseAddressList (String.ofList rest) := by
  induction run with
  | nil => rfl
  | cons c run ih =>
    -- a separator first is the empty piece, which is no address
    have h := @parseAddressList_piece [] (by simp) c (hrun c List.mem_cons_self) (run ++ rest)
    rw [List.nil_append] at h
    rw [List.cons_append, h, ih fun d hd => hrun d (List.mem_cons_of_mem _ hd)]
    simp [IpAddr.ofString?_empty]

/-- The list read from a text cut at its separators: the addresses among its pieces, in order. -/
theorem parseAddressList_of_cut {cs : List Char} {items : List (List Char × Char)}
    {last : List Char} (h : CutAtSeparators cs items last) :
    parseAddressList (String.ofList cs) =
      (items.map Prod.fst ++ [last]).filterMap (fun w => IpAddr.ofString? (String.ofList w)) := by
  obtain ⟨hitems, hlast, rfl⟩ := h
  induction items with
  | nil =>
    simp only [List.flatMap_nil, List.nil_append, List.map_nil, parseAddressList_last hlast,
      filterMap_cons_eq_toList_append, List.filterMap_nil, List.append_nil]
  | cons p items ih =>
    have hp := hitems p List.mem_cons_self
    rw [List.flatMap_cons, List.append_assoc, List.append_assoc, List.singleton_append,
      parseAddressList_piece hp.1 hp.2,
      ih fun q hq => hitems q (List.mem_cons_of_mem _ hq),
      List.map_cons, List.cons_append, filterMap_cons_eq_toList_append]

/-- Texts of addresses, each followed by a run of separators that only the last may leave empty,
read back as the addresses. -/
theorem parseAddressList_texts {items : List (IpAddr × List Char)}
    (hruns : ∀ p ∈ items, ∀ c ∈ p.2, isListSeparator c = true)
    (hgaps : ∀ p ∈ items.dropLast, p.2 ≠ []) :
    parseAddressList (String.ofList (items.flatMap fun p => p.1.text.toList ++ p.2)) =
      items.map Prod.fst := by
  induction items with
  | nil => rfl
  | cons p items ih =>
    obtain ⟨a, run⟩ := p
    have htext : ∀ c ∈ a.text.toList, isListSeparator c = false :=
      fun c hc => isListSeparator_of_mem_text hc
    have hrest : ∀ q ∈ items, ∀ c ∈ q.2, isListSeparator c = true :=
      fun q hq => hruns q (List.mem_cons_of_mem _ hq)
    cases run with
    | nil =>
      -- an empty run ends the list
      have hnil : items = [] := by
        cases items with
        | nil => rfl
        | cons q items => simp at hgaps
      subst hnil
      simp only [List.flatMap_cons, List.flatMap_nil, List.append_nil, List.map_cons, List.map_nil]
      rw [parseAddressList_last htext, String.ofList_toList, IpAddr.ofString?_text]
      rfl
    | cons c run =>
      have hc : isListSeparator c = true := hruns (a, c :: run) List.mem_cons_self c
        List.mem_cons_self
      have hgaps' : ∀ q ∈ items.dropLast, q.2 ≠ [] := by
        cases items with
        | nil => simp
        | cons q items =>
          intro r hr
          exact hgaps r (by simp only [List.dropLast_cons_cons]; exact List.mem_cons_of_mem _ hr)
      simp only [List.flatMap_cons, List.append_assoc, List.cons_append]
      rw [parseAddressList_piece htext hc,
        parseAddressList_run (fun d hd => hruns (a, c :: run) List.mem_cons_self d
          (List.mem_cons_of_mem _ hd)),
        ih hrest hgaps', String.ofList_toList, IpAddr.ofString?_text]
      rfl

/-- **An address list is read piece by piece.** Every text can be cut at its spaces, commas and
semicolons into pieces that hold none of them, and the list read from it is, in order, the pieces
that are IP addresses. So the texts of any IPv4 and IPv6 addresses, after an optional run of
separators and each followed by a run of separators that only the last may leave empty, read back
as exactly those addresses. -/
theorem address_list_reads_pieces :
    (∀ s : String, ∃ items last, CutAtSeparators s.toList items last) ∧
    (∀ (s : String) (items : List (List Char × Char)) (last : List Char),
      CutAtSeparators s.toList items last →
      parseAddressList s =
        (items.map Prod.fst ++ [last]).filterMap (fun w => IpAddr.ofString? (String.ofList w))) ∧
    (∀ (lead : List Char) (items : List (IpAddr × List Char)),
      (∀ c ∈ lead, isListSeparator c = true) →
      (∀ p ∈ items, ∀ c ∈ p.2, isListSeparator c = true) →
      (∀ p ∈ items.dropLast, p.2 ≠ []) →
      parseAddressList (String.ofList (lead ++ items.flatMap fun p => p.1.text.toList ++ p.2)) =
        items.map Prod.fst) := by
  refine ⟨fun s => exists_cutAtSeparators s.toList, ?_, ?_⟩
  · intro s items last hcut
    rw [← parseAddressList_of_cut hcut, String.ofList_toList]
  · intro lead items hlead hruns hgaps
    rw [parseAddressList_run hlead, parseAddressList_texts hruns hgaps]

end MetricsNode
