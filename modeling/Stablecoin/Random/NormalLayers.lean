/-!
The 256 layers of equal area under the standard normal density, one half of it:
where each layer ends, and how high the density is there.
-/
namespace Stablecoin.Random.NormalLayers

/-- The right edges of the layers, as the bits of doubles, from the base up. -/
def edgeBits : Array UInt64 := #[
  0x400F493B78164498, 0x400D3BB48209AD33, 0x400B981F3878F995, 0x400A8FDC7894718C, 0x4009CBEE014050DF, 0x40092EE0946F3D1A,
  0x4008AB0FBFAA7412, 0x400839030529E9C6, 0x4007D42DF4D6C5C3, 0x400779955608FD5B, 0x40072728F05F70D7, 0x4006DB6B8D09D896,
  0x40069540BE9FDBED, 0x400653CE7B0060DF, 0x40061669CF86140F, 0x4005DC8A243AC693, 0x4005A5C08B718342, 0x400571B1A94AD95A,
  0x40054011523A7359, 0x4005109F53E9A131, 0x4004E3250DCD7DCC, 0x4004B7739D6B4ECC, 0x40048D62759C383D, 0x400464CE44A72E74,
  0x40043D98155452D1, 0x400417A49CB9D9F6, 0x4003F2DBAA60E871, 0x4003CF27B316F883, 0x4003AC7570AE7CB8, 0x40038AB3925634A9,
  0x400369D27A339BC1, 0x400349C405AE0606, 0x40032A7B5E6897E9, 0x40030BECD256A217, 0x4002EE0DB1A96C02, 0x4002D0D43196CE88,
  0x4002B4375329FD27, 0x4002982ECD770131, 0x40027CB2FAA84BCB, 0x400261BCC7764B62, 0x40024745A4AC8E8B, 0x40022D477A6FC63B,
  0x400213BC9D04BEB3, 0x4001FA9FC2E2CB18, 0x4001E1EBFBE4A036, 0x4001C99CA9719877, 0x4001B1AD777F2157, 0x40019A1A564EDD5A,
  0x400182DF74D203F5, 0x40016BF93B9DE06E, 0x4001556448601F9D, 0x40013F1D69C3FAB5, 0x400129219BBB4E64, 0x4001136E04206156,
  0x4000FDFFEFA690B2, 0x4000E8D4CF115675, 0x4000D3EA34AA2DF9, 0x4000BF3DD1EEC4F7, 0x4000AACD7571B15A, 0x4000969708E892D0,
  0x400082988F631E79, 0x40006ED023A716B0, 0x40005B3BF6ADA3AC, 0x400047DA4E3EE5DB, 0x400034A983A8F2A6, 0x400021A8028FB929,
  0x40000ED447D3903D, 0x3FFFF859C118D567, 0x3FFFD360D22FC6AE, 0x3FFFAEBB187101B4, 0x3FFF8A6604897644, 0x3FFF665F20C8DFF6,
  0x3FFF42A40FB72BC7, 0x3FFF1F328AC23146, 0x3FFEFC086101CA9B, 0x3FFED923761084F7, 0x3FFEB681C0F74C90, 0x3FFE94214B2A9C5C,
  0x3FFE72002F97DB41, 0x3FFE501C99C1AE6F, 0x3FFE2E74C4EA23A7, 0x3FFE0D06FB49AE98, 0x3FFDEBD195520A7E, 0x3FFDCAD2F8FC2520,
  0x3FFDAA0999204A4D, 0x3FFD8973F4D7D74D, 0x3FFD691096E7CC94, 0x3FFD48DE1533A181, 0x3FFD28DB1037CA23, 0x3FFD0906328B6A39,
  0x3FFCE95E3068BACA, 0x3FFCC9E1C73BB0EA, 0x3FFCAA8FBD367CCD, 0x3FFC8B66E0EB8000, 0x3FFC6C6608EC60B5, 0x3FFC4D8C136DE693,
  0x3FFC2ED7E5F05369, 0x3FFC10486CEBEFA2, 0x3FFBF1DC9B81874A, 0x3FFBD3936B2E992E, 0x3FFBB56BDB84FDBE, 0x3FFB9764F1E5CF51,
  0x3FFB797DB93F6101, 0x3FFB5BB541CE14A1, 0x3FFB3E0AA0DFE361, 0x3FFB207CF09A6F7E, 0x3FFB030B4FC37800, 0x3FFAE5B4E18B89DE,
  0x3FFAC878CD5ACC36, 0x3FFAAB563E9FC731, 0x3FFA8E4C64A00726, 0x3FFA715A724A7F4D, 0x3FFA547F9E0B90EF, 0x3FFA37BB21A29D81,
  0x3FFA1B0C39F90B75, 0x3FF9FE7226FAA6EA, 0x3FF9E1EC2B6F486D, 0x3FF9C5798CD5AD43, 0x3FF9A919933F6D92, 0x3FF98CCB892DFDBF,
  0x3FF9708EBB70A936, 0x3FF954627903758C, 0x3FF9384612EEDDB8, 0x3FF91C38DC2855BC, 0x3FF9003A297387BC, 0x3FF8E44951443C0A,
  0x3FF8C865ABA0DE35, 0x3FF8AC8E92059192, 0x3FF890C35F47C831, 0x3FF875036F7A4F7E, 0x3FF8594E1FD1C628, 0x3FF83DA2CE896F32,
  0x3FF82200DAC85645, 0x3FF80667A486B99E, 0x3FF7EAD68C73AE15, 0x3FF7CF4CF3DAF1D9, 0x3FF7B3CA3C8AE294, 0x3FF7984DC8BA8BCB,
  0x3FF77CD6FAEFC22D, 0x3FF7616535E540AD, 0x3FF745F7DC70BC13, 0x3FF72A8E5168E1A6, 0x3FF70F27F78B3573, 0x3FF6F3C43161C483,
  0x3FF6D86261289F28, 0x3FF6BD01E8B30F36, 0x3FF6A1A229507DCF, 0x3FF6864283B0FBF7, 0x3FF66AE257C960D3, 0x3FF64F8104B6F00C,
  0x3FF6341DE8A27A41, 0x3FF618B860A2E8FF, 0x3FF5FD4FC89F270F, 0x3FF5E1E37B2F5545, 0x3FF5C672D17D3B48, 0x3FF5AAFD2323E2FB,
  0x3FF58F81C60E4C4C, 0x3FF574000E552644, 0x3FF558774E1B7925, 0x3FF53CE6D56A2C3D, 0x3FF5214DF20A50D8, 0x3FF505ABEF5E1A6D,
  0x3FF4EA0016386A9C, 0x3FF4CE49ACB2D5FD, 0x3FF4B287F6020506, 0x3FF496BA3248525E, 0x3FF47ADF9E6685EA, 0x3FF45EF773CA8993,
  0x3FF44300E83BF25A, 0x3FF426FB2DA63591, 0x3FF40AE571E05F24, 0x3FF3EEBEDE721AAC, 0x3FF3D2869855DD80, 0x3FF3B63BBFB7FC17,
  0x3FF399DD6FB270E9, 0x3FF37D6ABE05165D, 0x3FF360E2BACA1034, 0x3FF3444470261B6A, 0x3FF3278EE1F4755F, 0x3FF30AC10D6E0469,
  0x3FF2EDD9E8CB647F, 0x3FF2D0D862E172A1, 0x3FF2B3BB62B7E880, 0x3FF29681C7199017, 0x3FF2792A661D8BCD, 0x3FF25BB40CA92399,
  0x3FF23E1D7DE97A07, 0x3FF2206572C47D17, 0x3FF2028A99405610, 0x3FF1E48B93E088DC, 0x3FF1C666F8F7DEB3, 0x3FF1A81B51EE20A3,
  0x3FF189A71A788C7E, 0x3FF16B08BFC3D191, 0x3FF14C3E9F8E41D8, 0x3FF12D470730BF74, 0x3FF10E203294C4BD, 0x3FF0EEC84B15B64D,
  0x3FF0CF3D664B796D, 0x3FF0AF7D84BC0D06, 0x3FF08F8690719EFD, 0x3FF06F565B7249F9, 0x3FF04EEA9E164ED4, 0x3FF02E40F5393759,
  0x3FF00D56E041DB89, 0x3FEFD8537DF97991, 0x3FEF956D9E87202B, 0x3FEF51F654D83C88, 0x3FEF0DE784EFA595, 0x3FEEC93ABDF8C395,
  0x3FEE83E93379AD08, 0x3FEE3DEBB5D2292D, 0x3FEDF73AA9F0AE8D, 0x3FEDAFCE0022EDEE, 0x3FED679D29E3510D, 0x3FED1E9F0E7FE5F7,
  0x3FECD4C9FE7151CA, 0x3FEC8A13A531630B, 0x3FEC3E70F95872E0, 0x3FEBF1D62ABEA23B, 0x3FEBA4368E51BB30, 0x3FEB5584874191DA,
  0x3FEB05B16D127FD5, 0x3FEAB4AD6E0F24BA, 0x3FEA62676D76D6F5, 0x3FEA0ECCDCA3AB98, 0x3FE9B9C98E37C43B, 0x3FE96347822B1818,
  0x3FE90B2EA94DC2A8, 0x3FE8B1649E7A632C, 0x3FE855CC5341F023, 0x3FE7F845AD45D397, 0x3FE798AD10B200F0, 0x3FE736DAD345C6B6,
  0x3FE6D2A291FECA73, 0x3FE66BD261A2377E, 0x3FE60231CFD82F9B, 0x3FE59580A70673C9, 0x3FE5257562196C1C, 0x3FE4B1BB363C898D,
  0x3FE439EF8DFE170A, 0x3FE3BD9EC1A11C06, 0x3FE33C3FC055E9ED, 0x3FE2B52E38621B30, 0x3FE227A28F78456A, 0x3FE192A6973F450A,
  0x3FE0F5053B004B4E, 0x3FE04D32278C832E, 0x3FDF32482D4807A6, 0x3FDDAC2F5A6F3120, 0x3FDC004D2F328D93, 0x3FDA230C2E46389E,
  0x3FD801FCE827FAC5, 0x3FD57CB9383AE550, 0x3FD250AF3C200A69, 0x3FCB8D0BE3D69918, 0x0000000000000000]

/-- The density at the right edges, as the bits of doubles. -/
def heightBits : Array UInt64 := #[
  0x3F3F4A946F0D1E21, 0x3F54A605B6B9F70F, 0x3F655F9F43C1D644, 0x3F708A1F03B0D9D7, 0x3F769EA8D90CF658, 0x3F7CE160F8ECBD47,
  0x3F81A5922995660B, 0x3F84EB96421B129F, 0x3F8841040D8DF3CA, 0x3F8BA48D274FEBDC, 0x3F8F152A4F734696, 0x3F91490334606B67,
  0x3F930D388DABA032, 0x3F94D6EAF2FBF966, 0x3F96A5DAF40C0F87, 0x3F9879D1B6011823, 0x3F9A529F4E234A42, 0x3F9C301983CD6EA9,
  0x3F9E121ADB82F964, 0x3F9FF881D7191A2C, 0x3FA0F1982E96BE0F, 0x3FA1E9059F1FAC92, 0x3FA2E27CE83E3A4F, 0x3FA3DDF2CE993869,
  0x3FA4DB5D0E1174F2, 0x3FA5DAB23CF2FF69, 0x3FA6DBE9B3992600, 0x3FA7DEFB77AF80C9, 0x3FA8E3E02A691375, 0x3FA9EA90F929B758,
  0x3FAAF3079038C597, 0x3FABFD3E0F289491, 0x3FAD092EFEAE600A, 0x3FAE16D547B2C47C, 0x3FAF262C2B6CE583, 0x3FB01B979E31226F,
  0x3FB0A4ED2C15D631, 0x3FB12F14D0F259E6, 0x3FB1BA0CBE97CE08, 0x3FB245D344DD5460, 0x3FB2D266CF9B7A28, 0x3FB35FC5E4D989D0,
  0x3FB3EDEF2326E83C, 0x3FB47CE1401B7223, 0x3FB50C9B06FA7E17, 0x3FB59D1B5774BB6B, 0x3FB62E612485A445, 0x3FB6C06B7369A3E7,
  0x3FB753395AAA6D7F, 0x3FB7E6CA013F4E4D, 0x3FB87B1C9DBF893E, 0x3FB9103075A50413, 0x3FB9A604DC9DC0FE, 0x3FBA3C9933EACAF5,
  0x3FBAD3ECE9CB6128, 0x3FBB6BFF78F34FB7, 0x3FBC04D0680B802C, 0x3FBC9E5F493BE6BD, 0x3FBD38ABB9BE0731, 0x3FBDD3B561776082,
  0x3FBE6F7BF29B1FEA, 0x3FBF0BFF29528B67, 0x3FBFA93ECB6BA232, 0x3FC0239D5406BE88, 0x3FC072F94BB9023D, 0x3FC0C2B33D524DD1,
  0x3FC112CB1DA2B434, 0x3FC16340E5A87443, 0x3FC1B4149275C58A, 0x3FC20546251885E5, 0x3FC256D5A283A9D2, 0x3FC2A8C3137A53A6,
  0x3FC2FB0E847C7863, 0x3FC34DB805B4FAFA, 0x3FC3A0BFAAE928D4, 0x3FC3F4258B698410, 0x3FC447E9C203C9B4, 0x3FC49C0C6CF6238E,
  0x3FC4F08DADE376A4, 0x3FC5456DA9C8C09D, 0x3FC59AAC88F3775C, 0x3FC5F04A76F8DF6F, 0x3FC64647A2AE4E9C, 0x3FC69CA43E2250E8,
  0x3FC6F3607E96A72F, 0x3FC74A7C9C7B1751, 0x3FC7A1F8D3690665, 0x3FC7F9D5621FD650, 0x3FC852128A8200B0, 0x3FC8AAB09192E973,
  0x3FC903AFBF756425, 0x3FC95D105F6AE788, 0x3FC9B6D2BFD36B63, 0x3FCA10F7322DECF1, 0x3FCA6B7E0B1996DF, 0x3FCAC667A2578A1B,
  0x3FCB21B452CD4505, 0x3FCB7D647A87A72B, 0x3FCBD9787ABE8FDE, 0x3FCC35F0B7D91641, 0x3FCC92CD99725A10, 0x3FCCF00F8A5EEC4B,
  0x3FCD4DB6F8B2CF92, 0x3FCDABC455C81015, 0x3FCE0A381645F35F, 0x3FCE6912B228C089, 0x3FCEC854A4CA21C2, 0x3FCF27FE6CEA202A,
  0x3FCF88108CB8BB6B, 0x3FCFE88B89E01ED8, 0x3FD024B7F6C7BAF9, 0x3FD0555F22433149, 0x3FD0863B8F908B9B, 0x3FD0B74D88B28C36,
  0x3FD0E8955987541A, 0x3FD11A134FCF6F75, 0x3FD14BC7BB353AB8, 0x3FD17DB2ED54A239, 0x3FD1AFD539C33EA1, 0x3FD1E22EF618D06B,
  0x3FD214C079F81CF7, 0x3FD2478A1F182FE8, 0x3FD27A8C414E0385, 0x3FD2ADC73E96934E, 0x3FD2E13B77215BE5, 0x3FD314E94D5B4BBE,
  0x3FD348D125FA283F, 0x3FD37CF368086B2C, 0x3FD3B1507CF19C77, 0x3FD3E5E8D08F2CBB, 0x3FD41ABCD135D515, 0x3FD44FCCEFC38117,
  0x3FD485199FADC80D, 0x3FD4BAA35710FAFE, 0x3FD4F06A8EBFCD13, 0x3FD5266FC2539C94, 0x3FD55CB3703D62D1, 0x3FD5933619D751BC,
  0x3FD5C9F843772671, 0x3FD600FA74813828, 0x3FD6383D377C4BAB, 0x3FD66FC11A2633AF, 0x3FD6A786AD894727, 0x3FD6DF8E8612B6EC,
  0x3FD717D93BA9CCCD, 0x3FD7506769C81EAF, 0x3FD78939AF92C0F3, 0x3FD7C250AFF48400, 0x3FD7FBAD11B949AD, 0x3FD8354F7FAA7FC5,
  0x3FD86F38A8ACCDF4, 0x3FD8A9693FDF061C, 0x3FD8E3E1FCBA6703, 0x3FD91EA39B344260, 0x3FD959AEDBE1183B, 0x3FD9950484193AD3,
  0x3FD9D0A55E1F0F53, 0x3FDA0C923947011E, 0x3FDA48CBEA213E9E, 0x3FDA85534AA55844, 0x3FDAC2293A5FDBD7, 0x3FDAFF4E9EA20806,
  0x3FDB3CC462B3B5FC, 0x3FDB7A8B780798D0, 0x3FDBB8A4D671F4CD, 0x3FDBF7117C61F2DE, 0x3FDC35D26F1DB70F, 0x3FDC74E8BB0163B2,
  0x3FDCB45573C135CB, 0x3FDCF419B4AEEA8E, 0x3FDD3436A102A142, 0x3FDD74AD6427709C, 0x3FDDB57F320BEAC8, 0x3FDDF6AD4776CFD2,
  0x3FDE3838EA603307, 0x3FDE7A236A4F5D07, 0x3FDEBC6E20BDBA59, 0x3FDEFF1A717F2C62, 0x3FDF4229CB301990, 0x3FDF859DA7A9A13D,
  0x3FDFC9778C7C5FF1, 0x3FE006DC85B91CDE, 0x3FE02931E18BD539, 0x3FE04BBCAFA69335, 0x3FE06E7DCCF09138, 0x3FE091761D99B381,
  0x3FE0B4A68D7130B1, 0x3FE0D81010419AAA, 0x3FE0FBB3A232B228, 0x3FE11F924831795C, 0x3FE143AD105F04D3, 0x3FE168051286962A,
  0x3FE18C9B709B99BD, 0x3FE1B17157402FA1, 0x3FE1D687FE54F920, 0x3FE1FBE0A992F702, 0x3FE2217CA9305A04, 0x3FE2475D5A913ECC,
  0x3FE26D8429056971, 0x3FE293F28E9432DB, 0x3FE2BAAA14D7FC57, 0x3FE2E1AC55EAA449, 0x3FE308FAFD64A29F, 0x3FE33097C970A541,
  0x3FE358848BF5BD57, 0x3FE380C32BDA6EAD, 0x3FE3A955A6633C57, 0x3FE3D23E10AFA266, 0x3FE3FB7E9958CDC7, 0x3FE425198A35D3B3,
  0x3FE44F114A49ABDD, 0x3FE479685FDFC714, 0x3FE4A42172DCCB23, 0x3FE4CF3F4F49C91E, 0x3FE4FAC4E8213283, 0x3FE526B55A65EABB,
  0x3FE55313F08E1E03, 0x3FE57FE4264D0F30, 0x3FE5AD29ACC8E01C, 0x3FE5DAE86F4B84FE, 0x3FE609249880AE0A, 0x3FE637E2985595DF,
  0x3FE667272A936F1E, 0x3FE696F75E51C96B, 0x3FE6C7589E63EB25, 0x3FE6F850BAEB0DFB, 0x3FE729E5F44002A7, 0x3FE75C1F0771708D,
  0x3FE78F033CA14BC9, 0x3FE7C29A779D0627, 0x3FE7F6ED4B218395, 0x3FE82C050F577355, 0x3FE861EBFC3863D6, 0x3FE898AD48BB899A,
  0x3FE8D0554FE6B8DC, 0x3FE908F1BD322352, 0x3FE94291C21C3052, 0x3FE97D4657623514, 0x3FE9B9228D24C563, 0x3FE9F63BEE65E399,
  0x3FEA34AAFDF6780C, 0x3FEA748BD5519883, 0x3FEAB5FEF17AF9C6, 0x3FEAF92A3F6DC413, 0x3FEB3E3A8235BFDA, 0x3FEB85653A90E040,
  0x3FEBCEEB4EE2D08D, 0x3FEC1B1CD9EFB947, 0x3FEC6A5ECEAA82B8, 0x3FECBD33A8A84602, 0x3FED144978A24289, 0x3FED70920658FA12,
  0x3FEDD36FA70635F9, 0x3FEE3F11E0296BB2, 0x3FEEB7545B6E5A2D, 0x3FEF446AC97C0265, 0x3FF0000000000000]

def edges : FloatArray := ⟨edgeBits.map Float.ofBits⟩

def heights : FloatArray := ⟨heightBits.map Float.ofBits⟩

end Stablecoin.Random.NormalLayers
