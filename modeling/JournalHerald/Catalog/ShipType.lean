import JournalHerald.Text.Lowercase

/-!
# Ships

The types of ships that a commander can fly. The journal writes a ship by an internal identifier, and some
have a description that reads better.

* `ShipType.identifier` is the journal's word for a ship, `ShipType.ofIdentifier?` reads it in any case;
* `ShipType.description` is what a message shows.
-/

namespace JournalHerald

/-- A type of ship. -/
inductive ShipType where
  | adder | allianceChallenger | allianceChieftain | allianceCrusader | anaconda | aspExplorer
  | aspScout | belugaLiner | caspian | cobraMkIII | cobraMkIV | cobraMkV | corsair
  | diamondbackExplorer | diamondbackScout | dolphin | eagle | federalAssaultShip
  | federalCorvette | federalDropship | federalGunship | ferDeLance | hauler | imperialClipper
  | imperialCourier | imperialCutter | imperialEagle | keelback | kraitMkII | kraitPhantom
  | mamba | mandalay | orca | python | pythonMkII | sidewinder | type10Defender
  | type6Transporter | type7Transporter | type8Transporter | type9Heavy | viper | viperMkIV
  | vulture
  deriving DecidableEq, Repr, Inhabited

namespace ShipType

/-- Every member, in the order of the catalogue. -/
def all : List ShipType :=
  [.adder, .allianceChallenger, .allianceChieftain, .allianceCrusader, .anaconda, .aspExplorer,
   .aspScout, .belugaLiner, .caspian, .cobraMkIII, .cobraMkIV, .cobraMkV, .corsair,
   .diamondbackExplorer, .diamondbackScout, .dolphin, .eagle, .federalAssaultShip,
   .federalCorvette, .federalDropship, .federalGunship, .ferDeLance, .hauler, .imperialClipper,
   .imperialCourier, .imperialCutter, .imperialEagle, .keelback, .kraitMkII, .kraitPhantom,
   .mamba, .mandalay, .orca, .python, .pythonMkII, .sidewinder, .type10Defender,
   .type6Transporter, .type7Transporter, .type8Transporter, .type9Heavy, .viper, .viperMkIV,
   .vulture]

theorem mem_all (x : ShipType) : x ∈ all := by
  cases x <;> decide

/-- The name of a member. -/
def name : ShipType → Text
  | .adder => "Adder"
  | .allianceChallenger => "AllianceChallenger"
  | .allianceChieftain => "AllianceChieftain"
  | .allianceCrusader => "AllianceCrusader"
  | .anaconda => "Anaconda"
  | .aspExplorer => "AspExplorer"
  | .aspScout => "AspScout"
  | .belugaLiner => "BelugaLiner"
  | .caspian => "Caspian"
  | .cobraMkIII => "CobraMkIII"
  | .cobraMkIV => "CobraMkIV"
  | .cobraMkV => "CobraMkV"
  | .corsair => "Corsair"
  | .diamondbackExplorer => "DiamondbackExplorer"
  | .diamondbackScout => "DiamondbackScout"
  | .dolphin => "Dolphin"
  | .eagle => "Eagle"
  | .federalAssaultShip => "FederalAssaultShip"
  | .federalCorvette => "FederalCorvette"
  | .federalDropship => "FederalDropship"
  | .federalGunship => "FederalGunship"
  | .ferDeLance => "FerDeLance"
  | .hauler => "Hauler"
  | .imperialClipper => "ImperialClipper"
  | .imperialCourier => "ImperialCourier"
  | .imperialCutter => "ImperialCutter"
  | .imperialEagle => "ImperialEagle"
  | .keelback => "Keelback"
  | .kraitMkII => "KraitMkII"
  | .kraitPhantom => "KraitPhantom"
  | .mamba => "Mamba"
  | .mandalay => "Mandalay"
  | .orca => "Orca"
  | .python => "Python"
  | .pythonMkII => "PythonMkII"
  | .sidewinder => "Sidewinder"
  | .type10Defender => "Type10Defender"
  | .type6Transporter => "Type6Transporter"
  | .type7Transporter => "Type7Transporter"
  | .type8Transporter => "Type8Transporter"
  | .type9Heavy => "Type9Heavy"
  | .viper => "Viper"
  | .viperMkIV => "ViperMkIV"
  | .vulture => "Vulture"

/-- The identifier that the journal writes. -/
def identifier : ShipType → Text
  | .adder => "adder"
  | .allianceChallenger => "typex_3"
  | .allianceChieftain => "typex"
  | .allianceCrusader => "typex_2"
  | .anaconda => "anaconda"
  | .aspExplorer => "asp"
  | .aspScout => "asp_scout"
  | .belugaLiner => "belugaliner"
  | .caspian => "explorer_nx"
  | .cobraMkIII => "cobramkiii"
  | .cobraMkIV => "cobramkiv"
  | .cobraMkV => "cobramkv"
  | .corsair => "corsair"
  | .diamondbackExplorer => "diamondbackxl"
  | .diamondbackScout => "diamondback"
  | .dolphin => "dolphin"
  | .eagle => "eagle"
  | .federalAssaultShip => "federation_dropship_mkii"
  | .federalCorvette => "federation_corvette"
  | .federalDropship => "federation_dropship"
  | .federalGunship => "federation_gunship"
  | .ferDeLance => "ferdelance"
  | .hauler => "hauler"
  | .imperialClipper => "empire_trader"
  | .imperialCourier => "empire_courier"
  | .imperialCutter => "cutter"
  | .imperialEagle => "empire_eagle"
  | .keelback => "independant_trader"
  | .kraitMkII => "krait_mkii"
  | .kraitPhantom => "krait_light"
  | .mamba => "mamba"
  | .mandalay => "mandalay"
  | .orca => "orca"
  | .python => "python"
  | .pythonMkII => "python_nx"
  | .sidewinder => "sidewinder"
  | .type10Defender => "type9_military"
  | .type6Transporter => "type6"
  | .type7Transporter => "type7"
  | .type8Transporter => "type8"
  | .type9Heavy => "type9"
  | .viper => "viper"
  | .viperMkIV => "viper_mkiv"
  | .vulture => "vulture"

/-- How a member is shown: a registered description, or else its identifier. -/
def description : ShipType → Text
  | .allianceChallenger => "Alliance Challenger"
  | .allianceChieftain => "Alliance Chieftain"
  | .allianceCrusader => "Alliance Crusader"
  | .aspExplorer => "Asp Explorer"
  | .aspScout => "Asp Scout"
  | .belugaLiner => "Beluga Liner"
  | .cobraMkIII => "Cobra Mk III"
  | .cobraMkIV => "Cobra Mk IV"
  | .cobraMkV => "Cobra Mk V"
  | .diamondbackExplorer => "Diamondback Explorer"
  | .diamondbackScout => "Diamondback Scout"
  | .federalAssaultShip => "Federal Assault Ship"
  | .federalCorvette => "Federal Corvette"
  | .federalDropship => "Federal Dropship"
  | .federalGunship => "Federal Gunship"
  | .ferDeLance => "Fer-de-Lance"
  | .imperialClipper => "Imperial Clipper"
  | .imperialCourier => "Imperial Courier"
  | .imperialCutter => "Imperial Cutter"
  | .imperialEagle => "Imperial Eagle"
  | .kraitMkII => "Krait Mk II"
  | .kraitPhantom => "Krait Phantom"
  | .pythonMkII => "Python Mk II"
  | .type10Defender => "Type-10 Defender"
  | .type6Transporter => "Type-6 Transporter"
  | .type7Transporter => "Type-7 Transporter"
  | .type8Transporter => "Type-8 Transporter"
  | .type9Heavy => "Type-9 Heavy"
  | .viperMkIV => "Viper Mk IV"
  | x => x.identifier

/-- The member with a given identifier, in any letter case. -/
def ofIdentifier? (s : Text) : Option ShipType :=
  let wanted := Text.lowercase s
  all.find? fun x => Text.lowercase x.identifier == wanted

/-- The member with exactly this name. -/
def ofName? (s : Text) : Option ShipType :=
  all.find? fun x => x.name == s

end ShipType

end JournalHerald
