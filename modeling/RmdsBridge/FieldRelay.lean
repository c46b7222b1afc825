import RmdsBridge.FieldReads

namespace RmdsBridge

open FieldTypes

section

variable {W D T M : Type} {c : FieldConversions D T} {api : RsslFieldApi W D} {enc : FieldListEncoder}
  {dec : FieldListDecoder} {s : DecodedMsg D T M} {f : MamaField UpaAsMamaFieldTypeEnum} {w : W}

namespace FieldListEncoder

def Leads (enc : FieldListEncoder) (m : FieldMap UpaAsMamaFieldTypeEnum) (k : ℕ) (t : RwfType)
    (f : MamaField UpaAsMamaFieldTypeEnum) : Prop :=
  ∃ key, enc.upaFieldMap.getRMDSFidFromMAMAFid (UInt16.ofNat k) = key ∧ key ≠ 0 ∧
    enc.rmdsDictionary key = some t ∧ m.findField key = some f

structure Publishes (enc : FieldListEncoder) (p : UpaPayload D T M) : Prop where
  fid_eq : ∀ k h, p.fields.find k = some h → h.fid = k
  mapped : ∀ k h, p.fields.find k = some h →
    enc.upaFieldMap.getRMDSFidFromMAMAFid (UInt16.ofNat k) ≠ 0 →
      ∃ f, enc.upaFieldMap.findField (enc.upaFieldMap.getRMDSFidFromMAMAFid (UInt16.ofNat k)) = some f ∧
        f.mamaFid.toNat = k

variable {p : UpaPayload D T M} {order : List (UpaFieldPayload D T M)} {m : FieldMap UpaAsMamaFieldTypeEnum}

theorem Leads.inj {k k' : ℕ} {t t' : RwfType} {f f' : MamaField UpaAsMamaFieldTypeEnum}
    {h h' : UpaFieldPayload D T M} (hp : enc.Publishes p) (hm : m.Inverse)
    (hk : p.fields.find k = some h) (hk' : p.fields.find k' = some h') (hl : enc.Leads m k t f)
    (hl' : enc.Leads m k' t' f') (hf : f.mamaFid = f'.mamaFid) : k = k' ∧ t = t' ∧ f = f' := by
  obtain ⟨key, hkey, h0, ht, hfind⟩ := hl
  obtain ⟨key', hkey', h0', ht', hfind'⟩ := hl'
  rw [hm.findField] at hfind hfind'
  have hback := (hm key f hfind).2
  rw [hf, (hm key' f' hfind').2] at hback
  obtain rfl := Option.some.inj hback
  obtain ⟨g, hg, rfl⟩ := hp.mapped k h hk (by rwa [hkey])
  obtain ⟨g', hg', rfl⟩ := hp.mapped k' h' hk' (by rwa [hkey'])
  rw [hkey] at hg
  rw [hkey', hg] at hg'
  obtain rfl := Option.some.inj hg'
  exact ⟨rfl, Option.some.inj (ht.symm.trans ht'), Option.some.inj (hfind.symm.trans hfind')⟩

end FieldListEncoder

variable {p : UpaPayload D T M} {order : List (UpaFieldPayload D T M)} {m : FieldMap UpaAsMamaFieldTypeEnum}
  {wire : List (WireField W)} {before after : List (FieldWrite D T M)}

end

end RmdsBridge
