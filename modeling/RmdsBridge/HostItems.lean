import RmdsBridge.RetryItems

namespace RmdsBridge

open Numerals TextTokens

namespace HostText

variable {t t' : HostText} {default : Host} {r : Host} {s : List Char}

theorem tokens_eq (h : t.Parts) :
    strtokAll [[':'], [':'], [':']] t.text =
      match t.rest with
      | .nothing _ => [t.host]
      | .port _ name _ => [t.host, name] := by
  obtain ⟨⟨hne, hm⟩, hrest⟩ := h
  unfold text
  cases hr : t.rest with
  | nothing n =>
    cases n with
    | zero =>
      rw [HostRest.text, List.replicate_zero, List.append_nil]
      simp [strtokAll, strtok_last hne hm, strtok_nil]
    | succ n =>
      simp [strtokAll, HostRest.text, List.replicate_succ, strtok_delimited hne hm, strtok_none]
  | port b name n =>
    rw [hr] at hrest
    obtain ⟨hpne, hpm⟩ := hrest
    cases n with
    | zero =>
      simp [strtokAll, HostRest.text, List.replicate_succ, strtok_delimited hne hm, strtok_last hpne hpm,
        strtok_nil]
    | succ n =>
      simp [strtokAll, HostRest.text, List.replicate_succ, strtok_delimited hne hm,
        strtok_delimited hpne hpm, strtok_none]

theorem parse_of_text (h : t.Parts) (hs : t.text = cString s) :
    parseHostItem s default = some (t.value default) := by
  have htokens := tokens_eq h
  rw [hs] at htokens
  unfold parseHostItem value
  rw [htokens]
  cases t.rest <;> rfl

theorem text_of_parse (h : parseHostItem s default = some r) :
    ∃ t : HostText, t.Parts ∧ t.text = cString s ∧ t.value default = r := by
  unfold parseHostItem at h
  generalize cString s = c at h ⊢
  rcases strtok_cases ':' c with ⟨n, hc, hnone⟩ | ⟨a, host, rest, hne, hm, hsome, hc⟩
  · simp [strtokAll, hnone] at h
  · rcases strtok_cases ':' rest with ⟨b, hb, hnone⟩ | ⟨b, name, rest', hpne, hpm, hsome', hb⟩
    · simp only [strtokAll, hsome, hnone] at h
      cases h
      rcases hc with ⟨hc, -⟩ | hc
      · exact ⟨⟨a, host, .nothing 0⟩, ⟨⟨hne, hm⟩, trivial⟩, by simp [text, HostRest.text, hc], rfl⟩
      · refine ⟨⟨a, host, .nothing (b + 1)⟩, ⟨⟨hne, hm⟩, trivial⟩, ?_, rfl⟩
        rw [hc, hb]
        rfl
    · have hcut : c = List.replicate a ':' ++ (host ++ ':' :: rest) := by
        rcases hc with ⟨-, hrest⟩ | hc
        · subst hrest
          rcases hb with ⟨hb, -⟩ | hb <;> simp [hpne] at hb
        · exact hc
      rcases strtok_cases ':' rest' with ⟨n, hn, hnone⟩ | ⟨n, tok, rest'', -, -, hsome'', -⟩
      · simp only [strtokAll, hsome, hsome', hnone] at h
        cases h
        rcases hb with ⟨hb, -⟩ | hb
        · refine ⟨⟨a, host, .port b name 0⟩, ⟨⟨hne, hm⟩, hpne, hpm⟩, ?_, rfl⟩
          simp [text, HostRest.text, List.replicate_succ, hcut, hb]
        · refine ⟨⟨a, host, .port b name (n + 1)⟩, ⟨⟨hne, hm⟩, hpne, hpm⟩, ?_, rfl⟩
          simp [text, HostRest.text, List.replicate_succ, hcut, hb, hn]
      · simp [strtokAll, hsome, hsome', hsome''] at h

theorem parse_iff : parseHostItem s default = some r ↔
    ∃ t : HostText, t.Parts ∧ t.text = cString s ∧ t.value default = r := by
  constructor
  · exact text_of_parse
  · rintro ⟨t, ht, hs, rfl⟩
    exact parse_of_text ht hs

theorem rest_text_head (x : HostRest) : ∀ c ∈ x.text.head?, c = ':' := by
  cases x with
  | nothing n => cases n <;> simp [HostRest.text, List.replicate_succ]
  | port b name n => simp [HostRest.text, List.replicate_succ]

theorem text_inj (ht : t.Parts) (ht' : t'.Parts) (h : t.text = t'.text) : t = t' := by
  obtain ⟨leading, host, rest⟩ := t
  obtain ⟨leading', host', rest'⟩ := t'
  obtain ⟨⟨hne, hm⟩, hx⟩ := ht
  obtain ⟨⟨hne', hm'⟩, hx'⟩ := ht'
  dsimp only at hne hm hx hne' hm' hx'
  obtain ⟨rfl, htail⟩ := replicate_append_inj (not_mem_head?_append hne hm _)
    (not_mem_head?_append hne' hm' _) h
  obtain ⟨rfl, hrest⟩ := append_inj_of_not_mem hm hm' (rest_text_head rest) (rest_text_head rest') htail
  have hlength {n n' : ℕ} (h : List.replicate n ':' = List.replicate n' ':') : n = n' := by
    simpa using congrArg List.length h
  cases rest with
  | nothing n =>
    cases rest' with
    | nothing n' => rw [hlength hrest]
    | port b' name' n' => exact absurd hrest (replicate_ne_append hx'.1 hx'.2 _)
  | port b name n =>
    cases rest' with
    | nothing n' => exact absurd hrest.symm (replicate_ne_append hx.1 hx.2 _)
    | port b' name' n' =>
      obtain ⟨hb, hname⟩ := replicate_append_inj (not_mem_head?_append hx.1 hx.2 _)
        (not_mem_head?_append hx'.1 hx'.2 _) hrest
      have hcolons (k : ℕ) : ∀ c ∈ (List.replicate k ':').head?, c = ':' := by
        cases k <;> simp [List.replicate_succ]
      obtain ⟨rfl, hn⟩ := append_inj_of_not_mem hx.2 hx'.2 (hcolons n) (hcolons n') hname
      obtain rfl := hlength hn
      obtain rfl := Nat.succ.inj hb
      rfl

theorem item_of_exact (ht : t.Parts) (he : t.Exact) : HostItem default t.text (t.value default) := by
  obtain ⟨leading, host, rest⟩ := t
  obtain ⟨⟨hne, hm⟩, hx⟩ := ht
  obtain ⟨hleading, hrest⟩ := he
  obtain rfl : leading = 0 := hleading
  cases rest with
  | nothing n =>
    obtain rfl : n = 0 := hrest
    have htext : text ⟨0, host, .nothing 0⟩ = host := List.append_nil host
    rw [htext]
    exact .host host hne hm
  | port b name n =>
    obtain ⟨rfl, rfl⟩ := hrest
    have htext : text ⟨0, host, .port 0 name 0⟩ = host ++ ':' :: name := by
      simp [text, HostRest.text]
    rw [htext]
    exact .both host name hne hm hx.1 hx.2

theorem exact_of_item (h : HostItem default s r) :
    ∃ t : HostText, t.Parts ∧ t.Exact ∧ t.text = s ∧ t.value default = r := by
  cases h with
  | host _ hne hh => exact ⟨⟨0, s, .nothing 0⟩, ⟨⟨hne, hh⟩, trivial⟩, ⟨rfl, rfl⟩, List.append_nil s, rfl⟩
  | both h p hne hh pne hp =>
    exact ⟨⟨0, h, .port 0 p 0⟩, ⟨⟨hne, hh⟩, pne, hp⟩, ⟨rfl, rfl, rfl⟩, by simp [text, HostRest.text], rfl⟩

theorem nul_not_mem_cString (s : List Char) : '\x00' ∉ cString s := by
  intro h
  have hne := List.mem_takeWhile_imp h
  exact absurd hne (by decide)

theorem nul_not_mem_value (ht : t.text = cString s) :
    '\x00' ∉ (t.value {}).host ∧ '\x00' ∉ (t.value {}).port := by
  have hnul := nul_not_mem_cString s
  rw [← ht] at hnul
  obtain ⟨leading, host, rest⟩ := t
  have htail : '\x00' ∉ host ++ rest.text := fun hm => hnul (List.mem_append_right _ hm)
  have hhost : '\x00' ∉ host := fun hm => htail (List.mem_append_left _ hm)
  cases rest with
  | nothing n =>
    have hport : '\x00' ∉ ['8', '0'] := by decide
    exact ⟨hhost, hport⟩
  | port b name n =>
    refine ⟨hhost, fun hm => htail (List.mem_append_right _ ?_)⟩
    exact List.mem_append_right _ (List.mem_append_left _ hm)

theorem not_item_of_nul (hnul : '\x00' ∈ s) (hp : parseHostItem s {} = some r) : ¬ HostItem {} s r := by
  obtain ⟨t, -, hs, rfl⟩ := text_of_parse hp
  obtain ⟨hhost, hport⟩ := nul_not_mem_value hs
  intro h
  generalize t.value {} = r at h hhost hport
  cases h with
  | host _ hne hh => exact hhost hnul
  | both h p hne hh pne hp => simp [hhost, hport] at hnul

theorem item_default (h : HostItem default s r) : ∃ r', HostItem {} s r' := by
  cases h with
  | host _ hne hh => exact ⟨_, .host s hne hh⟩
  | both h p hne hh pne hp => exact ⟨_, .both h p hne hh pne hp⟩

end HostText

theorem host_parse_iff (s : List Char) :
    (∀ default r, parseHostItem s default = some r ↔ HostItem default s r) ↔ ¬ HostSlip s := by
  constructor
  · rintro h (⟨t, ht, hs, hslip⟩ | ⟨hnul, default, r, hitem⟩)
    · have hparse : parseHostItem s {} = some (t.value {}) := HostText.parse_of_text ht hs
      have hitem := (h {} _).mp hparse
      rcases hslip with hexact | hnul
      · by_cases hnul : '\x00' ∈ s
        · exact HostText.not_item_of_nul hnul hparse hitem
        · obtain ⟨t', ht', hexact', hs', -⟩ := HostText.exact_of_item hitem
          rw [cString_eq hnul, ← hs'] at hs
          obtain rfl := HostText.text_inj ht ht' hs
          exact hexact hexact'
      · exact HostText.not_item_of_nul hnul hparse hitem
    · obtain ⟨r', hitem'⟩ := HostText.item_default hitem
      exact HostText.not_item_of_nul hnul ((h {} r').mpr hitem') hitem'
  · intro hslip default r
    rw [HostText.parse_iff]
    constructor
    · rintro ⟨t, ht, hs, rfl⟩
      have hexact : t.Exact := by
        by_contra hn
        exact hslip (.inl ⟨t, ht, hs, .inl hn⟩)
      have hnul : '\x00' ∉ s := fun hn => hslip (.inl ⟨t, ht, hs, .inr hn⟩)
      rw [cString_eq hnul] at hs
      exact hs ▸ HostText.item_of_exact ht hexact
    · intro hitem
      have hnul : '\x00' ∉ s := fun hn => hslip (.inr ⟨hn, default, r, hitem⟩)
      obtain ⟨t, ht, -, hs, hr⟩ := HostText.exact_of_item hitem
      exact ⟨t, ht, by rw [hs, cString_eq hnul], hr⟩

theorem item_parsers_iff (s : List Char) :
    ((∀ default r, parseRetryschedItem s default = some r ↔ RetryItem default s r) ↔ ¬ RetrySlip s) ∧
      ((∀ default r, parseHostItem s default = some r ↔ HostItem default s r) ↔ ¬ HostSlip s) :=
  ⟨retry_parse_iff s, host_parse_iff s⟩

/-- An opening bracket without its number is let through, and so is a trailing colon. -/
theorem item_parsers_lenient :
    ¬ ∀ s : List Char, (∀ default r, parseRetryschedItem s default = some r ↔ RetryItem default s r) ∧
      ∀ default r, parseHostItem s default = some r ↔ HostItem default s r := by
  intro h
  have hretry : RetrySlip ['5', '('] := ⟨⟨0, ['5'], .bracket 0⟩, rfl, rfl, .inl fun he => he.2.2⟩
  exact (retry_parse_iff ['5', '(']).mp (h ['5', '(']).1 hretry

end RmdsBridge
