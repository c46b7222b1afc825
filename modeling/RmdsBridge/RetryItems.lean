import RmdsBridge.ParseItems

namespace RmdsBridge

open Numerals TextTokens

namespace RetryText

variable {t t' : RetryText} {default : Retrysched} {r : Retrysched} {s : List Char}

theorem value_eq_some (h : t.value default = some r) :
    (t.delay ≠ [] ∧ '(' ∉ t.delay) ∧
      ∀ closing number closed, t.rest = .retry closing number closed → number ≠ [] ∧ ')' ∉ number := by
  unfold value at h
  cases hr : t.rest with
  | nothing =>
    rw [hr] at h
    obtain ⟨delay, hd, -⟩ := Option.bind_eq_some_iff.mp h
    exact ⟨lexicalCast_chars hd (by decide) (by decide) (by decide), by simp⟩
  | bracket n =>
    rw [hr] at h
    obtain ⟨delay, hd, -⟩ := Option.bind_eq_some_iff.mp h
    exact ⟨lexicalCast_chars hd (by decide) (by decide) (by decide), by simp⟩
  | retry n number closed =>
    rw [hr] at h
    obtain ⟨delay, hd, h⟩ := Option.bind_eq_some_iff.mp h
    obtain ⟨retry, hn, -⟩ := Option.bind_eq_some_iff.mp h
    refine ⟨lexicalCast_chars hd (by decide) (by decide) (by decide), ?_⟩
    rintro _ _ _ ⟨⟩
    exact lexicalCast_chars hn (by decide) (by decide) (by decide)

theorem tokens_eq (hd : t.delay ≠ [] ∧ '(' ∉ t.delay)
    (hn : ∀ closing number closed, t.rest = .retry closing number closed → number ≠ [] ∧ ')' ∉ number) :
    strtokAll [['('], [')'], []] t.text =
      match t.rest with
      | .nothing | .bracket _ => [t.delay]
      | .retry _ number _ => [t.delay, number] := by
  unfold text
  cases hr : t.rest with
  | nothing =>
    rw [RetryRest.text, List.append_nil]
    simp [strtokAll, strtok_last hd.1 hd.2, strtok_nil]
  | bracket n =>
    simp [strtokAll, RetryRest.text, strtok_delimited hd.1 hd.2, strtok_none]
  | retry n number closed =>
    obtain ⟨hne, hmem⟩ := hn n number closed hr
    cases closed with
    | false =>
      simp [strtokAll, RetryRest.text, strtok_delimited hd.1 hd.2, strtok_last hne hmem, strtok_empty]
    | true =>
      simp [strtokAll, RetryRest.text, strtok_delimited hd.1 hd.2, strtok_delimited hne hmem, strtok_empty]

theorem parse_of_text (h : t.value default = some r) (hs : t.text = cString s) :
    parseRetryschedItem s default = some r := by
  obtain ⟨hd, hn⟩ := value_eq_some h
  have htokens := tokens_eq hd hn
  unfold parseRetryschedItem
  unfold value at h
  rw [hs] at htokens
  rw [htokens]
  cases hr : t.rest with
  | nothing => rw [hr] at h; exact h
  | bracket n => rw [hr] at h; exact h
  | retry n number closed => rw [hr] at h; exact h

theorem text_of_parse (h : parseRetryschedItem s default = some r) :
    ∃ t : RetryText, t.text = cString s ∧ t.value default = some r := by
  unfold parseRetryschedItem at h
  generalize cString s = c at h ⊢
  rcases strtok_cases '(' c with ⟨n, hc, hnone⟩ | ⟨a, delay, rest, -, -, hsome, hc⟩
  · simp [strtokAll, hnone] at h
  · rcases strtok_cases ')' rest with ⟨b, hb, hnone⟩ | ⟨b, number, rest', hne, -, hsome', hb⟩
    · simp only [strtokAll, hsome, hnone] at h
      rcases hc with ⟨hc, -⟩ | hc
      · exact ⟨⟨a, delay, .nothing⟩, by rw [hc, text, RetryRest.text, List.append_nil], h⟩
      · refine ⟨⟨a, delay, .bracket b⟩, ?_, h⟩
        rw [hc, text, RetryRest.text, hb]
    · have hopen : c = List.replicate a '(' ++ (delay ++ '(' :: rest) := by
        rcases hc with ⟨-, hrest⟩ | hc
        · subst hrest
          rcases hb with ⟨hb, -⟩ | hb <;> simp [hne] at hb
        · exact hc
      by_cases hlast : rest' = []
      · simp only [strtokAll, hsome, hsome', strtok_empty, if_pos hlast] at h
        rcases hb with ⟨hb, -⟩ | hb
        · refine ⟨⟨a, delay, .retry b number false⟩, ?_, h⟩
          simp [text, RetryRest.text, hopen, hb]
        · refine ⟨⟨a, delay, .retry b number true⟩, ?_, h⟩
          simp [text, RetryRest.text, hopen, hb, hlast]
      · simp [strtokAll, hsome, hsome', strtok_empty, hlast] at h

theorem parse_iff : parseRetryschedItem s default = some r ↔
    ∃ t : RetryText, t.text = cString s ∧ t.value default = some r := by
  constructor
  · exact text_of_parse
  · rintro ⟨t, hs, h⟩
    exact parse_of_text h hs

theorem rest_text_head (x : RetryRest) : ∀ c ∈ x.text.head?, c = '(' := by
  cases x <;> simp [RetryRest.text]

theorem rest_inj {x x' : RetryRest} (h : x.text = x'.text)
    (hx : ∀ closing number closed, x = .retry closing number closed → number ≠ [] ∧ ')' ∉ number)
    (hx' : ∀ closing number closed, x' = .retry closing number closed → number ≠ [] ∧ ')' ∉ number) :
    x = x' := by
  cases x with
  | nothing =>
    cases x' with
    | nothing => rfl
    | bracket n => cases h
    | retry n number closed => cases h
  | bracket n =>
    cases x' with
    | nothing => cases h
    | bracket n' =>
      have hlength := congrArg List.length (List.cons.inj h).2
      simp only [List.length_replicate] at hlength
      rw [hlength]
    | retry n' number' closed' =>
      obtain ⟨hne, hm⟩ := hx' n' number' closed' rfl
      exact absurd (List.cons.inj h).2 (replicate_ne_append hne hm _)
  | retry n number closed =>
    obtain ⟨hne, hm⟩ := hx n number closed rfl
    cases x' with
    | nothing => cases h
    | bracket n' => exact absurd (List.cons.inj h).2.symm (replicate_ne_append hne hm _)
    | retry n' number' closed' =>
      obtain ⟨hne', hm'⟩ := hx' n' number' closed' rfl
      obtain ⟨rfl, htail⟩ := replicate_append_inj (not_mem_head?_append hne hm _)
        (not_mem_head?_append hne' hm' _) (List.cons.inj h).2
      have hclose (b : Bool) : ∀ c ∈ (if b then [')'] else []).head?, c = ')' := by cases b <;> simp
      obtain ⟨rfl, hend⟩ := append_inj_of_not_mem hm hm' (hclose closed) (hclose closed') htail
      have hclosed : closed = closed' := by cases closed <;> cases closed' <;> simp_all
      rw [hclosed]

theorem text_inj {default' : Retrysched} {r' : Retrysched} (hv : t.value default = some r)
    (hv' : t'.value default' = some r') (h : t.text = t'.text) : t = t' := by
  obtain ⟨⟨hne, hd⟩, hn⟩ := value_eq_some hv
  obtain ⟨⟨hne', hd'⟩, hn'⟩ := value_eq_some hv'
  obtain ⟨opening, delay, rest⟩ := t
  obtain ⟨opening', delay', rest'⟩ := t'
  dsimp only at hne hd hn hne' hd' hn'
  obtain ⟨rfl, htail⟩ := replicate_append_inj (not_mem_head?_append hne hd _)
    (not_mem_head?_append hne' hd' _) h
  obtain ⟨rfl, hrest⟩ := append_inj_of_not_mem hd hd' (rest_text_head rest) (rest_text_head rest') htail
  obtain rfl := rest_inj hrest hn hn'
  rfl

theorem item_of_exact (ht : t.Exact) (h : t.value default = some r) : RetryItem default t.text r := by
  obtain ⟨opening, delay, rest⟩ := t
  obtain ⟨hopen, hdelay, hrest⟩ := ht
  obtain rfl : opening = 0 := hopen
  cases rest with
  | nothing =>
    obtain ⟨n, hn, hr⟩ := Option.bind_eq_some_iff.mp h
    obtain ⟨hlt, rfl⟩ := (lexicalCast_eq_some hdelay).mp hn
    cases hr
    have htext : text ⟨0, delay, .nothing⟩ = delay := List.append_nil delay
    rw [htext]
    exact .delay delay hdelay hlt
  | bracket n => exact hrest.elim
  | retry closing number closed =>
    obtain ⟨rfl, hnumber, rfl⟩ := hrest
    obtain ⟨n, hn, h⟩ := Option.bind_eq_some_iff.mp h
    obtain ⟨m, hm, hr⟩ := Option.bind_eq_some_iff.mp h
    obtain ⟨hlt, rfl⟩ := (lexicalCast_eq_some hdelay).mp hn
    obtain ⟨hlt', rfl⟩ := (lexicalCast_eq_some hnumber).mp hm
    cases hr
    exact .both delay number hdelay hlt hnumber hlt'

theorem exact_of_item (h : RetryItem default s r) :
    ∃ t : RetryText, t.Exact ∧ t.text = s ∧ t.value default = some r := by
  cases h with
  | delay _ h hlt =>
    refine ⟨⟨0, s, .nothing⟩, ⟨rfl, h, trivial⟩, List.append_nil s, ?_⟩
    simp [value, (lexicalCast_eq_some h).mpr ⟨hlt, rfl⟩]
  | both ds rs h hlt hr hrlt =>
    refine ⟨⟨0, ds, .retry 0 rs true⟩, ⟨rfl, h, rfl, hr, rfl⟩, rfl, ?_⟩
    simp [value, (lexicalCast_eq_some h).mpr ⟨hlt, rfl⟩, (lexicalCast_eq_some hr).mpr ⟨hrlt, rfl⟩]

theorem nul_not_mem_item (h : RetryItem default s r) : '\x00' ∉ s := by
  cases h with
  | delay _ h hlt => exact numeral_not_mem h (by decide)
  | both ds rs h hlt hr hrlt =>
    have hd : '\x00' ∉ ds := numeral_not_mem h (by decide)
    have hn : '\x00' ∉ rs := numeral_not_mem hr (by decide)
    simp [hd, hn]

theorem value_isSome (h : t.value default = some r) : (t.value {}).isSome := by
  unfold value at h ⊢
  cases hr : t.rest with
  | nothing | bracket n =>
    rw [hr] at h
    obtain ⟨delay, hd, -⟩ := Option.bind_eq_some_iff.mp h
    simp [hd]
  | retry n number closed =>
    rw [hr] at h
    exact Option.isSome_iff_exists.mpr ⟨r, h⟩

end RetryText

theorem retry_parse_iff (s : List Char) :
    (∀ default r, parseRetryschedItem s default = some r ↔ RetryItem default s r) ↔ ¬ RetrySlip s := by
  constructor
  · rintro h ⟨t, hs, hsome, hslip⟩
    obtain ⟨r, hr⟩ := Option.isSome_iff_exists.mp hsome
    have hitem := (h {} r).mp (RetryText.parse_of_text hr hs)
    obtain ⟨t', hexact, hs', hr'⟩ := RetryText.exact_of_item hitem
    have hnul := RetryText.nul_not_mem_item hitem
    rw [cString_eq hnul, ← hs'] at hs
    obtain rfl := RetryText.text_inj hr hr' hs
    exact hslip.elim (fun hn => hn hexact) hnul
  · intro hslip default r
    rw [RetryText.parse_iff]
    constructor
    · rintro ⟨t, hs, hr⟩
      have hexact : t.Exact := by
        by_contra hn
        exact hslip ⟨t, hs, RetryText.value_isSome hr, .inl hn⟩
      have hnul : '\x00' ∉ s := fun hn => hslip ⟨t, hs, RetryText.value_isSome hr, .inr hn⟩
      rw [cString_eq hnul] at hs
      exact hs ▸ RetryText.item_of_exact hexact hr
    · intro hitem
      obtain ⟨t, -, hs, hr⟩ := RetryText.exact_of_item hitem
      exact ⟨t, by rw [hs, cString_eq (RetryText.nul_not_mem_item hitem)], hr⟩

end RmdsBridge
