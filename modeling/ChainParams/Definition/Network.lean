import ChainParams.Definition.Parts
import ChainParams.StandardNetwork

/-!
# The form of a network

The record of all parameters of a network, and the form of the names of the standard networks.
-/

namespace ChainParams.Definition.Form

def network : Form Network :=
  record "ParameterSet"
    (.cons (.required "name" string) <|
     .cons (.required "net" magic) <|
     .cons (.required "default_port" string) <|
     .cons (.default "dns_seeds" dnsSeed.list []) <|
     .cons (.required "genesis_hash" hash) <|
     .cons (.optional "genesis_block" genesisHeader) <|
     .cons (.default "consensus" rules .standard) <|
     .cons (.optional "spork_keys" sporkKeys) <|
     .cons (.default "zerocoin" zerocoin .zero) <|
     .cons (.optional "bad_block" badBlock) <|
     .cons (.default "checkpoints" checkpoints .empty) <|
     .cons (.default "deployments" schedule .never) <|
     .cons (.required "address_prefixes" addressPrefixes) <|
     .cons (.required "hd_key_versions" keyVersions) <|
     .cons (.required "hd_coin_type" u32) <|
     .nil)
    (fun (name, magic, defaultPort, dnsSeeds, genesisHash, genesisHeader, rules, sporkKeys,
        zerocoin, badBlock, checkpoints, schedule, addressPrefixes, keyVersions, coinType, ()) ↦
      { name, magic, defaultPort, dnsSeeds, genesisHash, genesisHeader, rules, sporkKeys,
        zerocoin, badBlock, checkpoints, schedule, addressPrefixes, keyVersions, coinType })
    (fun network ↦ (network.name, network.magic, network.defaultPort, network.dnsSeeds,
      network.genesisHash, network.genesisHeader, network.rules, network.sporkKeys,
      network.zerocoin, network.badBlock, network.checkpoints, network.schedule,
      network.addressPrefixes, network.keyVersions, network.coinType, ()))

def standardNetwork : Form StandardNetwork :=
  variant StandardNetwork.all StandardNetwork.labelled

end ChainParams.Definition.Form
