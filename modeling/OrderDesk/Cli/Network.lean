import OrderDesk.Market.Deployment

/-!
# `OrderDesk.Cli.Network` — the networks known by name
-/

namespace OrderDesk

/-- A network with a deployment and a public node. -/
inductive Network where
  | mainnet
  | testnet
deriving DecidableEq, Repr, Inhabited

namespace Network

/-- The name in settings and on command lines. -/
def name : Network → String
  | mainnet => "mainnet"
  | testnet => "testnet"

/-- The name in messages. -/
def title : Network → String
  | mainnet => "Mainnet"
  | testnet => "Testnet"

def all : List Network := [mainnet, testnet]

/-- The network of a name, written exactly so. -/
def ofName? (name : String) : Option Network := all.find? (·.name == name)

/-- The public node. -/
def publicNode : Network → String
  | mainnet => "https://api.infra.mainnet.somnia.network"
  | testnet => "https://dream-rpc.somnia.network"

def deployment : Network → Deployment
  | mainnet => .mainnet
  | testnet => .testnet

end Network
end OrderDesk
