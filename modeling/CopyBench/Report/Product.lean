/-!
# Product families

The product family of a device from its device id, and the generation of a
family.
-/

namespace CopyBench

/-- A product family. -/
inductive Product where
  | unknown
  | kbl
  | cfl
  | icl
  | tgl
  | dg1
  | adls
  | adlp
  | dg2
  | mtl
  | pvc
  | lnl
  | bmg
deriving DecidableEq, Repr

/-- A generation of product families. -/
inductive Generation where
  | unknown
  | gen9
  | gen11
  | gen12Lp
  | xeHpg
  | xeHpc
  | xeLpg
  | xe2
deriving DecidableEq, Repr

namespace Product

/-- The device ids of each family: its first and its last. -/
def deviceIds : List (UInt32 × UInt32 × Product) :=
  [(0x5900, 0x59FF, kbl), (0x3E90, 0x3EFF, cfl), (0x8A50, 0x8A71, icl), (0x9A40, 0x9AFF, tgl),
   (0x4905, 0x4909, dg1), (0x4680, 0x469F, adls), (0x46A0, 0x46DF, adlp), (0x5690, 0x56FF, dg2),
   (0x7D40, 0x7DFF, mtl), (0x0BD0, 0x0BDF, pvc), (0x6420, 0x64BF, lnl), (0xE200, 0xE2FF, bmg)]

/-- The family of a device id. -/
def ofDeviceId (id : UInt32) : Product :=
  match deviceIds.find? fun (first, last, _) => first ≤ id && id ≤ last with
  | some (_, _, product) => product
  | none => unknown

/-- The generation of a family. -/
def generation : Product → Generation
  | unknown => .unknown
  | kbl | cfl => .gen9
  | icl => .gen11
  | tgl | dg1 | adls | adlp => .gen12Lp
  | dg2 => .xeHpg
  | pvc => .xeHpc
  | mtl => .xeLpg
  | lnl | bmg => .xe2

/-- The name of a family. -/
def name : Product → String
  | unknown => "Unknown"
  | kbl => "KBL"
  | cfl => "CFL"
  | icl => "ICL"
  | tgl => "TGL"
  | dg1 => "DG1"
  | adls => "ADLS"
  | adlp => "ADLP"
  | dg2 => "DG2"
  | mtl => "MTL"
  | pvc => "PVC"
  | lnl => "LNL"
  | bmg => "BMG"

end Product

/-- The name of a generation. -/
def Generation.name : Generation → String
  | unknown => "Unknown"
  | gen9 => "Gen9"
  | gen11 => "Gen11"
  | gen12Lp => "Gen12LP"
  | xeHpg => "XeHPG"
  | xeHpc => "XeHPC"
  | xeLpg => "XeLPG"
  | xe2 => "Xe2"

end CopyBench
