import Mathlib.Algebra.Ring.Nat
import ObjectStore.Command.Fault
import ObjectStore.Proofs.Command.Transcripts
import ObjectStore.Proofs.Upload.Cut
/-!
# Sizes on the command line

A part size is given in MiB and counted in bytes, and the sizes of the listed parts are added up,
both in words of 64 bits and without looking whether the result fits.  What is meant is counted
here in numbers without a bound (`PartPlan.meant`, `Command.meantTotal`).

**The sizes are the ones that are meant as long as they fit into a word, and never otherwise**
(`Command.sizes_exact_iff`): from 2^44 MiB on the plan has a wrong part size, and from 2^64 bytes
on the total is wrong, by a multiple of 2^64.
-/

namespace ObjectStore

/-! ### Part sizes -/

namespace PartPlan

/-- The bytes of a part of so many MiB, five at the least. -/
def meant (mebibytes : Nat) : Nat := max 5 mebibytes * 2 ^ 20

theorem toNat_mebibytes (n : UInt64) :
    (UploadSettings.mebibytes n).toNat = n.toNat * 2 ^ 20 % 2 ^ 64 := by
  rw [UploadSettings.mebibytes, UInt64.toNat_mul, UInt64.toNat_mul]
  show n.toNat * 1024 % 2 ^ 64 * 1024 % 2 ^ 64 = _
  omega

theorem partSize_withPartSize (p : PartPlan) (n : UInt64) :
    (p.withPartSize (UploadSettings.mebibytes n)).partSize.toNat =
      max (n.toNat * 2 ^ 20 % 2 ^ 64) (5 * 2 ^ 20) := by
  show (max (UploadSettings.mebibytes n) minPartSize).toNat = _
  rw [FileCut.toNat_max, toNat_mebibytes]
  rfl

/-- The product fits, or the size is not the one that is meant: no word holds that one. -/
theorem partSize_withPartSize_eq_iff (p : PartPlan) (n : UInt64) :
    (p.withPartSize (UploadSettings.mebibytes n)).partSize.toNat = meant n.toNat ↔
      n.toNat < 2 ^ 44 := by
  rw [partSize_withPartSize, meant]
  omega

end PartPlan

namespace Command

theorem partSize_plan (s : UploadSettings) :
    s.plan.partSize =
      (({} : PartPlan).withPartSize (UploadSettings.mebibytes s.partSizeMb)).partSize := rfl

/-- The size that is given on the command line goes before that of the settings. -/
theorem partSize_uploadPlan (settings : UploadSettings) (workers partSizeMb : Option UInt64) :
    (uploadPlan settings workers partSizeMb).partSize =
      (({} : PartPlan).withPartSize
        (UploadSettings.mebibytes (partSizeMb.getD settings.partSizeMb))).partSize := by
  cases partSizeMb with
  | none =>
    cases workers with
    | none => exact partSize_plan settings
    | some n => exact partSize_plan settings
  | some n => rfl

/-! ### Totals -/

/-- The sum of the sizes of the parts; a part of unknown size counts nothing. -/
def meantTotal (parts : List Part) : Nat :=
  (parts.map fun p => (p.size.map UInt64.toNat).getD 0).sum

theorem toNat_partSize (p : Part) : (partSize p).toNat = (p.size.map UInt64.toNat).getD 0 := by
  rw [partSize]
  cases p.size with
  | none => rfl
  | some n => rfl

theorem toNat_foldl_partSize (sum : UInt64) (parts : List Part) :
    (parts.foldl (fun sum p => sum + partSize p) sum).toNat =
      (sum.toNat + meantTotal parts) % 2 ^ 64 := by
  induction parts generalizing sum with
  | nil => exact (Nat.mod_eq_of_lt sum.toNat_lt).symm
  | cons p parts ih =>
    have hcons : meantTotal (p :: parts) =
        (p.size.map UInt64.toNat).getD 0 + meantTotal parts := by
      rw [meantTotal, List.map_cons, List.sum_cons, meantTotal]
    rw [List.foldl_cons, ih, UInt64.toNat_add, toNat_partSize, hcons, Nat.mod_add_mod,
      Nat.add_assoc]

/-- The sum in words is the sum up to a multiple of 2^64. -/
theorem toNat_totalSize (parts : List Part) :
    (totalSize parts).toNat = meantTotal parts % 2 ^ 64 := by
  rw [totalSize, toNat_foldl_partSize]
  show (0 + meantTotal parts) % 2 ^ 64 = _
  rw [Nat.zero_add]

theorem toNat_totalSize_eq_iff (parts : List Part) :
    (totalSize parts).toNat = meantTotal parts ↔ meantTotal parts < 2 ^ 64 := by
  rw [toNat_totalSize]
  exact Nat.mod_eq_iff_lt (by decide)

/-! ### The listing of parts -/

/-- The line below the parts. -/
def partsLine (count total : Nat) : String := s!"{count} parts, {ByteSize.text total}\n"

/-- The parts that the client lists for a path. -/
def ListsParts (c : Client) (path uploadId : String) (events : List Event) (parts : List Part) :
    Prop :=
  ∃ bucket key chunk, ObjectPath.readObject path = .ok (bucket, key) ∧
    Session.Transcript (Session.ofDialogue (c.listParts { uploadId, bucket, key } {} .merge).run)
      events (.ok chunk) ∧
    chunk.items = parts

/-- The events of a listing of parts that ends well: the parts are listed, and what is printed are
their lines and the total. -/
theorem transcript_showParts {c : Client} {path uploadId : String} {events : List Event} :
    Session.Transcript (showParts c path uploadId).run events (.ok ()) ↔
      ∃ listing parts, ListsParts c path uploadId listing parts ∧
        events = listing ++ [.printed (String.join (parts.map partLine)),
          .printed (partsLine parts.length (totalSize parts).toNat)] := by
  constructor
  · intro h
    obtain ⟨_, _, ⟨bucket, key⟩, hpath, hrest, rfl⟩ := Act.transcript_bind_ok.1 h
    obtain ⟨rfl, hread⟩ := Act.transcript_objectPath_ok.1 hpath
    obtain ⟨listing, _, chunk, hlisting, hprints, rfl⟩ := Act.transcript_bind_ok.1 hrest
    obtain ⟨_, htotal, rfl⟩ := Act.transcript_print_bind.1 hprints
    obtain ⟨rfl, -⟩ := Act.transcript_print.1 htotal
    have hlists := Act.transcript_perform_ok.1 hlisting
    exact ⟨listing, chunk.items, ⟨bucket, key, chunk, hread, hlists, rfl⟩, rfl⟩
  · rintro ⟨listing, _, ⟨bucket, key, chunk, hread, hlists, rfl⟩, rfl⟩
    have hpath := Act.transcript_objectPath_ok.2 ⟨rfl, hread⟩
    have hlisting : Session.Transcript (Act.perform .listParts
        (c.listParts { uploadId, bucket, key } {} .merge)).run listing (.ok chunk) :=
      Act.transcript_perform_ok.2 hlists
    exact Act.transcript_bind_ok.2 ⟨[], _, (bucket, key), hpath,
      Act.transcript_bind_ok.2 ⟨listing, _, chunk, hlisting, .print (.print (.done _)), rfl⟩, rfl⟩

/-! ### What fits -/

/-- **The sizes are those that are meant exactly if these fit into a word:** the part size of the
settings and of an upload, and the total that a listing of parts ends with. -/
theorem sizes_exact_iff (c : Client) (settings : UploadSettings)
    (workers partSizeMb : Option UInt64) (path uploadId : String) (events : List Event) :
    (settings.plan.partSize.toNat = PartPlan.meant settings.partSizeMb.toNat ↔
        settings.partSizeMb.toNat < 2 ^ 44) ∧
      ((uploadPlan settings workers partSizeMb).partSize.toNat =
          PartPlan.meant (partSizeMb.getD settings.partSizeMb).toNat ↔
        (partSizeMb.getD settings.partSizeMb).toNat < 2 ^ 44) ∧
      (Session.Transcript (showParts c path uploadId).run events (.ok ()) ↔
        ∃ listing parts total, ListsParts c path uploadId listing parts ∧
          total = meantTotal parts % 2 ^ 64 ∧
          (total = meantTotal parts ↔ meantTotal parts < 2 ^ 64) ∧
          events = listing ++ [.printed (String.join (parts.map partLine)),
            .printed (partsLine parts.length total)]) := by
  refine ⟨?_, ?_, ?_⟩
  · rw [partSize_plan]
    exact PartPlan.partSize_withPartSize_eq_iff {} settings.partSizeMb
  · rw [partSize_uploadPlan]
    exact PartPlan.partSize_withPartSize_eq_iff {} (partSizeMb.getD settings.partSizeMb)
  · rw [transcript_showParts]
    constructor
    · rintro ⟨listing, parts, hlists, rfl⟩
      exact ⟨listing, parts, _, hlists, toNat_totalSize parts, toNat_totalSize_eq_iff parts, rfl⟩
    · rintro ⟨listing, parts, total, hlists, htotal, -, rfl⟩
      rw [← toNat_totalSize] at htotal
      exact ⟨listing, parts, hlists, by rw [htotal]⟩

/-- With 2^44 + 6 MiB, which no check refuses, parts have 6 MiB, and two parts of 2^63 bytes have
none together. -/
theorem sizes_of_wrapped_words :
    Invocation.check { action := .upload "f" "s3://b/k" none (some 17592186044422) none none } =
        .ok () ∧
      (uploadPlan {} none (some 17592186044422)).partSize.toNat = 6 * 2 ^ 20 ∧
      ({ partSizeMb := 17592186044422 } : UploadSettings).plan.partSize.toNat = 6 * 2 ^ 20 ∧
      PartPlan.meant 17592186044422 = 2 ^ 64 + 6 * 2 ^ 20 ∧
      (totalSize [{ size := some 9223372036854775808 }, { size := some 9223372036854775808 }]).toNat
        = 0 ∧
      meantTotal [{ size := some 9223372036854775808 }, { size := some 9223372036854775808 }] =
        2 ^ 64 :=
  ⟨rfl, by decide, by decide, by decide, by decide, by decide⟩

end Command

end ObjectStore
