namespace Stablecoin.Random.ExponentialLayers

/-- The right edges of the layers, as the bits of doubles, from the base up. -/
def edgeBits : Array UInt64 := #[
  0x402164EC94BF5DC3, 0x401EC9D9297EBB83, 0x401BC39E51DA71FC, 0x4019E9DC0D487B85, 0x4018939FE6F2ED19, 0x40178750D6EAC62F,
  0x4016AA676D4BBF72, 0x4015EE7AE17313D2, 0x40154AD83CCF73F5, 0x4014B9D7CD4751D0, 0x4014379766E41361, 0x4013C14EC7C8B860,
  0x401354EE27CCF75D, 0x4012F0E38A4411F0, 0x401293F5AE49AAA5, 0x40123D2BB659919F, 0x4011EBBCA0C9FA7C, 0x40119F03BCB3C2D6,
  0x401156786775442A, 0x401111A8034392A6, 0x4010D031785D48A0, 0x401091C1CDCBA54E, 0x401056118BF58EEF, 0x40101CE2B362EC2E,
  0x400FCBFE43F6C6E6, 0x400F626E9791F7A7, 0x400EFCC26750EA4A, 0x400E9AAF2AF383C1, 0x400E3BF26E190960, 0x400DE050AF4EF19F,
  0x400D87946FEC3BEC, 0x400D318D6B2738C5, 0x400CDE0FECF2A97F, 0x400C8CF442C8C8F3, 0x400C3E1641C2E0A6, 0x400BF154DE4BEF76,
  0x400BA691D276DA5D, 0x400B5DB15091EA0E, 0x400B1699C003B608, 0x400AD13382D845C3, 0x400A8D68C2AD86E8, 0x400A4B2543E84C3A,
  0x400A0A563E49F177, 0x4009CAEA3A24D9E9, 0x40098CD0F18D1AD7, 0x40094FFB34FC2A0D, 0x4009145AD2F37543, 0x4008D9E2823B3695,
  0x4008A085CE695BAA, 0x4008683906687341, 0x400830F12CC0BEC3, 0x4007FAA3E96E1412, 0x4007C5477D1476D3, 0x400790D2B56B71F9,
  0x40075D3CE2BD71C3, 0x40072A7DCE5CD218, 0x4006F88DB1F42507, 0x4006C7652F9A7B1E, 0x400696FD4A9748EE, 0x4006674F60C3F431,
  0x40063855247B2E93, 0x40060A0897081877, 0x4005DC640388BD9C, 0x4005AF61FA38E106, 0x400582FD4C1B4460, 0x4005573106F8A759,
  0x40052BF871ACAAB1, 0x4005014F08B99508, 0x4004D7307B1CB127, 0x4004AD98A75DA14C, 0x4004848398D39432, 0x40045BED851BC92C,
  0x400433D2C9BD42F8, 0x40040C2FE9F5EEAD, 0x4003E5018CADDECF, 0x4003BE447A8D8B83, 0x400397F59C345143, 0x40037211F88CA856,
  0x40034C96B33BC965, 0x400327810B2AA7CF, 0x400302CE59265964, 0x4002DE7C0E962D70, 0x4002BA87B445DB50, 0x400296EEE942532B,
  0x400273AF61C7DAA6, 0x400250C6E6403BBA, 0x40022E33524FE550, 0x40020BF293F0F4A2, 0x4001EA02AA9B3371, 0x4001C861A6782A5B,
  0x4001A70DA7A27821, 0x40018604DD6FAE9E, 0x4001654585C404C1, 0x400144CDEC6F3A2C, 0x4001249C6A92154B, 0x400104AF660BEFCF,
  0x4000E50550EFCFB8, 0x4000C59CA9009470, 0x4000A673F733C81A, 0x40008789CF3AAD0F, 0x400068DCCF1126DB, 0x40004A6B9E9224A3,
  0x40002C34EF11391B, 0x40000E377AF911D5, 0x3FFFE0E40ADD09D9, 0x3FFFA5C6B3EFE1E6, 0x3FFF6B1498515ED1, 0x3FFF30CB6EA0BC81,
  0x3FFEF6E8FC5B9169, 0x3FFEBD6B154A767A, 0x3FFE844F9AF42381, 0x3FFE4B947C16A454, 0x3FFE1337B426509D, 0x3FFDDB374AD23581,
  0x3FFDA391538DA50C, 0x3FFD6C43ED1EA401, 0x3FFD354D4130F2B0, 0x3FFCFEAB83ED7182, 0x3FFCC85CF395A56E, 0x3FFC925FD82323FE,
  0x3FFC5CB282EAB1A7, 0x3FFC27534E42E02F, 0x3FFBF2409D2DFD87, 0x3FFBBD78DB072612, 0x3FFB88FA7B324FB7, 0x3FFB54C3F8CF2543,
  0x3FFB20D3D66E8BB6, 0x3FFAED289DCAAD00, 0x3FFAB9C0DF81657B, 0x3FFA869B32D0F310, 0x3FFA53B63556C691, 0x3FFA21108AD0592E,
  0x3FF9EEA8DCDDE952, 0x3FF9BC7DDAC7035E, 0x3FF98A8E3940BBF5, 0x3FF958D8B235828B, 0x3FF9275C048E73E2, 0x3FF8F616F3FE1514,
  0x3FF8C50848CC6095, 0x3FF8942ECFA40F55, 0x3FF86389596108E8, 0x3FF83316BADFE62B, 0x3FF802D5CCCE7278, 0x3FF7D2C56B7D17F9,
  0x3FF7A2E476B1240C, 0x3FF77331D177D131, 0x3FF743AC61FA041D, 0x3FF714531150A9FC, 0x3FF6E524CB59A609, 0x3FF6B6207E8D3CE1,
  0x3FF687451BD3EBF0, 0x3FF65891965C9B8E, 0x3FF62A04E3731A2F, 0x3FF5FB9DFA56CF28, 0x3FF5CD5BD4119336, 0x3FF59F3D6B4E9CFA,
  0x3FF57141BC316F27, 0x3FF54367C42CB5F9, 0x3FF515AE81D900FC, 0x3FF4E814F4CB45EB, 0x3FF4BA9A1D6B18A5, 0x3FF48D3CFCC883C4,
  0x3FF45FFC94716CA7, 0x3FF432D7E6466CD0, 0x3FF405CDF44F09C4, 0x3FF3D8DDC08D336E, 0x3FF3AC064CCFEFFC, 0x3FF37F469A851AEF,
  0x3FF3529DAA8A1BA0, 0x3FF3260A7CFB7611, 0x3FF2F98C11031720, 0x3FF2CD2164A53B5D, 0x3FF2A0C9748BCDA9, 0x3FF274833BD0189F,
  0x3FF2484DB3C2A329, 0x3FF21C27D3B10E04, 0x3FF1F01090A9C4E0, 0x3FF1C406DD3D5281, 0x3FF19809A93D2394, 0x3FF16C17E1777FF9,
  0x3FF140306F707DBC, 0x3FF114523917AC13, 0x3FF0E87C207A2F64, 0x3FF0BCAD03710135, 0x3FF090E3BB4B0070, 0x3FF0651F1C7276F5,
  0x3FF0395DF60DB15F, 0x3FF00D9F119A3CD6, 0x3FEFC3C26504A99C, 0x3FEF6C462B57FEB0, 0x3FEF14C6E2029499, 0x3FEEBD41E5E21B5D,
  0x3FEE65B483CF103E, 0x3FEE0E1BF77C31F8, 0x3FEDB6756A429050, 0x3FED5EBDF1D86B87, 0x3FED06F28EF0E6F4, 0x3FECAF102BC25AD4,
  0x3FEC57139A70D298, 0x3FEBFEF99359FE92, 0x3FEBA6BEB33F8F83, 0x3FEB4E5F794C9795, 0x3FEAF5D844F224C2, 0x3FEA9D255396D25B,
  0x3FEA4442BE148844, 0x3FE9EB2C75FF03B8, 0x3FE991DE42AD1332, 0x3FE93853BDFDA23D, 0x3FE8DE8850D0C523, 0x3FE884772F2BE1E5,
  0x3FE82A1B53FED593, 0x3FE7CF6F7C7E816C, 0x3FE7746E2307796D, 0x3FE71911797990B5, 0x3FE6BD5362FAA93E, 0x3FE6612D6D0C68DA,
  0x3FE60498C7DD2EC8, 0x3FE5A78E3DB8BEF6, 0x3FE54A0629786F47, 0x3FE4EBF86BCD0B8D, 0x3FE48D5C5F35E70C, 0x3FE42E28CA706742,
  0x3FE3CE53D121629A, 0x3FE36DD2E26D81FB, 0x3FE30C9AA526DA45, 0x3FE2AA9EE1236804, 0x3FE247D26538FF28, 0x3FE1E426E93E49E1,
  0x3FE17F8CEB4BDF9B, 0x3FE119F38749F5AA, 0x3FE0B348479B80F7, 0x3FE04B76ED6A7553, 0x3FDFC4D25D683201, 0x3FDEF00CCF5F4FA3,
  0x3FDE186678F17352, 0x3FDD3DA24DF17C2D, 0x3FDC5F7BD78C3F7F, 0x3FDB7DA5DDDDA3B9, 0x3FDA97C8BE5D51F8, 0x3FD9AD80552237C7,
  0x3FD8BE5954D36063, 0x3FD7C9CDDA17D00E, 0x3FD6CF40F0A72BB2, 0x3FD5CDF89D024AB7, 0x3FD4C515C60BFE16, 0x3FD3B388FE3D6EBD,
  0x3FD2980290DA2625, 0x3FD170DB24D6F662, 0x3FD03BF049C65C2D, 0x3FCDECD8B76DBD7B, 0x3FCB38D1EF79B7AE, 0x3FC85090FBC27A5E,
  0x3FC522E6E54A2A4E, 0x3FC19335A95B8D8E, 0x3FBAD6B2495B4CC6, 0x3FB0589D8B5D408F, 0x0000000000000000]

/-- The density at the right edges, as the bits of doubles. -/
def heightBits : Array UInt64 := #[
  0x3F25E5D3F59D053B, 0x3F3DC31C329F0B4F, 0x3F4FB20AF78DFCB4, 0x3F592BB5540C3E28, 0x3F61946BA8E1A326, 0x3F66D888F3A1FEFF,
  0x3F6C58B381CD4B11, 0x3F71073D69574045, 0x3F73FA97CEE32301, 0x3F77049F37EC3627, 0x3F7A23E9D497483B, 0x3F7D5751FA745DCD,
  0x3F804EF2295FD7FB, 0x3F81FB69EDB37672, 0x3F83B0B8C1516F63, 0x3F856E930BE416CC, 0x3F8734B6E6AA74F7, 0x3F8902EA688FA7BB,
  0x3F8AD8FA5542C92D, 0x3F8CB6B9146E275A, 0x3F8E9BFDDE89C7CE, 0x3F904452091E02EE, 0x3F913E4554725F5D, 0x3F923BC9E1B93A30,
  0x3F933CD225315D82, 0x3F944151CE87F0BD, 0x3F95493DA6AB0250, 0x3F96548B72A24077, 0x3F976331DA87FC96, 0x3F98752853EC9968,
  0x3F998A670F132A49, 0x3F9AA2E6E6924E9C, 0x3F9BBEA150FA5871, 0x3F9CDD9054331B0F, 0x3F9DFFAE7A51746D, 0x3F9F24F6C7AF9895,
  0x3FA026B2590DFAF0, 0x3FA0BC7A0C7CD654, 0x3FA153D09F19B3A5, 0x3FA1ECB45FF312D7, 0x3FA28723C956C00F, 0x3FA3231D7E3F14B1,
  0x3FA3C0A047FF1901, 0x3FA45FAB14266B1B, 0x3FA5003CF296C5EE, 0x3FA5A25513C5D2CD, 0x3FA645F2C726A043, 0x3FA6EB1579B6AF53,
  0x3FA791BCB4AB08A0, 0x3FA839E81C3A396D, 0x3FA8E3976E80776E, 0x3FA98ECA827B7C4D, 0x3FAA3B81471BF138, 0x3FAAE9BBC26A8083,
  0x3FAB997A10BED984, 0x3FAC4ABC640721E8, 0x3FACFD83031E7949, 0x3FADB1CE49315810, 0x3FAE679EA52EB2E7, 0x3FAF1EF49944E838,
  0x3FAFD7D0BA69967C, 0x3FB04919D7F5C81A, 0x3FB0A70F19871B3F, 0x3FB105C88756CA53, 0x3FB165468F755395, 0x3FB1C589A86FA342,
  0x3FB22692512C9D8D, 0x3FB2886110CE0571, 0x3FB2EAF676948DD1, 0x3FB34E5319C6E718, 0x3FB3B277999B9F9F, 0x3FB417649D25B10F,
  0x3FB47D1AD343985C, 0x3FB4E39AF290D929, 0x3FB54AE5B959D037, 0x3FB5B2FBED91BB40, 0x3FB61BDE5CCADEF8, 0x3FB6858DDC30B621,
  0x3FB6F00B488416B8, 0x3FB75B5786193C21, 0x3FB7C77380D7A6F5, 0x3FB834602C3BC4BB, 0x3FB8A21E835A533D, 0x3FB910AF88E574BA,
  0x3FB9801447336B70, 0x3FB9F04DD046F428, 0x3FBA615D3DD938B6, 0x3FBAD343B1655463, 0x3FBB460254356546, 0x3FBBB99A5771268C,
  0x3FBC2E0CF42E10AD, 0x3FBCA35B6B80FD56, 0x3FBD198706914DD5, 0x3FBD909116AD9396, 0x3FBE087AF561BAF8, 0x3FBE8146048EB9C9,
  0x3FBEFAF3AE83C339, 0x3FBF758566190412, 0x3FBFF0FCA6CBEA8B, 0x3FC036AD7A6E7F04, 0x3FC07550EEB7A5BF, 0x3FC0B4697B54B62F,
  0x3FC0F3F7EFEC171F, 0x3FC133FD20C9712E, 0x3FC17479E6F0AE77, 0x3FC1B56F2031D665, 0x3FC1F6DDAF3DCA63, 0x3FC238C67BBBE876,
  0x3FC27B2A7260993E, 0x3FC2BE0A8504CF32, 0x3FC30167AABE7D6C, 0x3FC34542DFFA0CAD, 0x3FC3899D2694D5C7, 0x3FC3CE7785F8A903,
  0x3FC413D30B386A97, 0x3FC459B0C92DCCC3, 0x3FC4A011D8983093, 0x3FC4E6F7583CB6F7, 0x3FC52E626D078C46, 0x3FC57654422E78F1,
  0x3FC5BECE0954C2B2, 0x3FC607D0FAB06A2E, 0x3FC6515E5530D1A9, 0x3FC69B775EA6DA26, 0x3FC6E61D63EE84E9, 0x3FC73151B91A2838,
  0x3FC77D15B99F46FD, 0x3FC7C96AC8851BAD, 0x3FC816525094E7E4, 0x3FC863CDC48C1AF8, 0x3FC8B1DE9F5062D3, 0x3FC900866425BB78,
  0x3FC94FC69EE6929F, 0x3FC99FA0E43E1621, 0x3FC9F016D1E4C510, 0x3FCA412A0EDF5CBA, 0x3FCA92DC4BC03C47, 0x3FCAE52F42EB5B0A,
  0x3FCB3824B8DCEF3C, 0x3FCB8BBE7C72E4A3, 0x3FCBDFFE67394433, 0x3FCC34E65DB9AFEC, 0x3FCC8A784FCE17FF, 0x3FCCE0B638F6D09B,
  0x3FCD37A220B431FA, 0x3FCD8F3E1AE3EEB6, 0x3FCDE78C48224F37, 0x3FCE408ED62F83A4, 0x3FCE9A48005940EF, 0x3FCEF4BA0FE8E098,
  0x3FCF4FE75C963E7B, 0x3FCFABD24CFF9351, 0x3FD0043EAB934769, 0x3FD032F580797C2B, 0x3FD0620EF05D90D1, 0x3FD0918C4EE93E12,
  0x3FD0C16EF88F5332, 0x3FD0F1B852D9A66B, 0x3FD12269CCBA9FB9, 0x3FD15384DEE291EE, 0x3FD1850B0C191981, 0x3FD1B6FDE19ABC59,
  0x3FD1E95EF77B09DA, 0x3FD21C2FF10B7EFF, 0x3FD24F727D4776FD, 0x3FD2832857457628, 0x3FD2B75346AE2263, 0x3FD2EBF520394271,
  0x3FD3210FC6312436, 0x3FD356A528FCD0DD, 0x3FD38CB747B17DEF, 0x3FD3C34830ABB285, 0x3FD3FA5A0230A14F, 0x3FD431EEEB1841E2,
  0x3FD46A092B80BEEF, 0x3FD4A2AB158BDAD4, 0x3FD4DBD70E26F920, 0x3FD5158F8DDE89F7, 0x3FD54FD721BDA3E9, 0x3FD58AB06C3AA9F1,
  0x3FD5C61E2631EE6F, 0x3FD602231FEF5879, 0x3FD63EC2424827E7, 0x3FD67BFE8FC60DA1, 0x3FD6B9DB25E4E99F, 0x3FD6F85B3E649EA1,
  0x3FD7378230B08DEE, 0x3FD77753735E72E7, 0x3FD7B7D29DC68022, 0x3FD7F90369B6CE5D, 0x3FD83AE9B544613D, 0x3FD87D8984BC3F90,
  0x3FD8C0E704B75D3E, 0x3FD905068C545D09, 0x3FD949EC9F9A8115, 0x3FD98F9DF2097BAD, 0x3FD9D61F695A3797, 0x3FDA1D76207521F9,
  0x3FDA65A76AA30145, 0x3FDAAEB8D6FDF6EB, 0x3FDAF8B03428EF65, 0x3FDB439394548075, 0x3FDB8F6951990B8E, 0x3FDBDC3812AEEEBB,
  0x3FDC2A06D00EA588, 0x3FDC78DCD983FB66, 0x3FDCC8C1DC40E098, 0x3FDD19BDE97E1A11, 0x3FDD6BD97DB9ED80, 0x3FDDBF1D88A72112,
  0x3FDE139375E13802, 0x3FDE6945367DD357, 0x3FDEC03D4B969D96, 0x3FDF1886D1EB4253, 0x3FDF722D8EBFC600, 0x3FDFCD3DFE21457C,
  0x3FE014E2B160F327, 0x3FE043E8EBD2654B, 0x3FE073B931EE3B80, 0x3FE0A45B8854D02D, 0x3FE0D5D8812B1E2E, 0x3FE108394A1CC390,
  0x3FE13B87BC33169F, 0x3FE16FCE6DCE6FF2, 0x3FE1A518C71E3B29, 0x3FE1DB7319877B8D, 0x3FE212EABA813ECC, 0x3FE24B8E228C50A6,
  0x3FE2856D111132C0, 0x3FE2C098B61F4F27, 0x3FE2FD23E345DA61, 0x3FE33B23450E631B, 0x3FE37AADA708DDDC, 0x3FE3BBDC44E1D116,
  0x3FE3FECB2BB18B82, 0x3FE44399AFA8E128, 0x3FE48A6AFB8EE06C, 0x3FE4D366C151F8B2, 0x3FE51EBA1578899E, 0x3FE56C9882DA8777,
  0x3FE5BD3D694CAC79, 0x3FE610EDC1A7AF6A, 0x3FE667FA6D4F5C0A, 0x3FE6C2C3498418CA, 0x3FE721BB5BA94B67, 0x3FE7856E9B09D483,
  0x3FE7EE8A2D24312B, 0x3FE85DE87806C5BD, 0x3FE8D4A376D3D235, 0x3FE95431C455AA3F, 0x3FE9DE9715556DA1, 0x3FEA76BAA562FAEE,
  0x3FEB210F0EE67F32, 0x3FEBE5007BEB7B31, 0x3FECD0A65081FFFC, 0x3FEE0545E5881147, 0x3FF0000000000000]

def edges : FloatArray := ⟨edgeBits.map Float.ofBits⟩

def heights : FloatArray := ⟨heightBits.map Float.ofBits⟩

end Stablecoin.Random.ExponentialLayers
