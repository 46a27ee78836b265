import Assay.Text.Packed

/-!
# Joining letters

The characters of scripts whose letters join with their neighbours: those that join with the one
after them, those that join with the one before them, and those that joining passes over.
-/
namespace Assay.Domain

open Text

/-- The characters that join with the one after them. -/
def leadingTable : Table := numbersOf [
  "620 621 626 627 628 629 62A 62F 633 640 641 648 649 64B 66E 670 679 688 69A 6C0 6C1 6C3 6CC",
  "6CD 6CE 6CF 6D0 6D2 6FA 6FD 6FF 700 712 715 71A 71E 71F 728 729 72A 72B 72C 72D 72F 74E 759",
  "75C 76B 76D 771 772 773 775 778 77A 780 7CA 7EB 841 846 848 849 84A 854 855 856 860 861 862",
  "866 868 869 886 887 889 88E 88F 897 8A0 8AA 8AF 8B1 8B3 8B9 8BA 8C9 1807 1808 1820 1880 1887",
  "18A9 18AA 18B0 A840 A873 10AC0 10AC5 10ACD 10ACE 10AD3 10ADD 10ADE 10AE1 10AEB 10AEF 10B80",
  "10B81 10B82 10B83 10B86 10B89 10B8A 10B8C 10B8D 10B8E 10B90 10B91 10BAD 10BAF 10D00 10D22",
  "10D23 10D24 10EC3 10EC5 10EC6 10ED0 10F30 10F33 10F34 10F45 10F51 10F54 10F70 10F74 10F76",
  "10F82 10FB0 10FB1 10FB2 10FB4 10FB8 10FB9 10FBB 10FBD 10FBE 10FC0 10FC1 10FC2 10FC4 10FC5",
  "10FCA 10FE0 1E922 1E944"]

/-- The characters that join with the one before them. -/
def trailingTable : Table := numbersOf [
  "620 621 622 640 641 64B 66E 670 671 674 679 6D4 6D5 6D6 6EE 6F0 6FA 6FD 6FF 700 710 711 712",
  "730 74D 780 7CA 7EB 840 859 860 861 862 866 867 883 886 887 889 897 8A0 8AD 8AE 8C9 1807 1808",
  "1820 1880 1887 18A9 18AA 18B0 A840 A872 10AC0 10AC6 10AC7 10AC8 10AC9 10ACB 10ACE 10AD7 10AD8",
  "10AE2 10AE4 10AE5 10AEB 10AF0 10B80 10B99 10BA9 10BAF 10D01 10D24 10EC2 10EC5 10EC6 10ED0",
  "10F30 10F45 10F51 10F55 10F70 10F82 10FB0 10FB1 10FB2 10FB7 10FB8 10FC0 10FC1 10FC5 10FC9",
  "10FCB 1E922 1E944"]

/-- The characters that joining passes over. -/
def passedTable : Table := numbersOf [
  "300 371 483 48B 591 5BE 5BF 5C0 5C1 5C3 5C4 5C6 5C7 5D0 610 61B 64B 660 670 671 6D6 6DE 6DF",
  "6E5 6E7 6E9 6EA 6EE 711 712 730 74D 7A6 7B1 7EB 7F4 7FD 7FE 816 81A 81B 824 825 828 829 830",
  "859 85E 897 8A0 8CA 903 93A 93B 93C 93D 941 949 94D 94E 951 960 962 964 981 982 9BC 9BD 9C1",
  "9C7 9CD 9CE 9E2 9E6 9FE A03 A3C A3E A41 A5C A70 A72 A75 A76 A81 A83 ABC ABD AC1 AC9 ACD AD0",
  "AE2 AE6 AFA B02 B3C B3D B3F B40 B41 B47 B4D B57 B62 B66 B82 B83 BC0 BC1 BCD BD0 C00 C01 C04",
  "C05 C3C C3D C3E C41 C46 C58 C62 C66 C81 C82 CBC CBD CBF CC0 CC6 CC7 CCC CD5 CE2 CE6 D00 D02",
  "D3B D3D D41 D46 D4D D4E D62 D66 D81 D82 DCA DCF DD2 DD8 E31 E32 E34 E3F E47 E4F EB1 EB2 EB4",
  "EBD EC8 ED0 F18 F1A F35 F36 F37 F38 F39 F3A F71 F7F F80 F85 F86 F88 F8D FBE FC6 FC7 102D 1031",
  "1032 1038 1039 103B 103D 103F 1058 105A 105E 1061 1071 1075 1082 1083 1085 1087 108D 108E",
  "109D 109E 135D 1360 1712 1715 1732 1734 1752 1760 1772 1780 17B7 17BE 17C6 17C7 17C9 17D4",
  "17DD 17E0 1885 1887 18A9 18AA 1920 1923 1927 1929 1932 1933 1939 1940 1A17 1A19 1A1B 1A1E",
  "1A56 1A57 1A58 1A61 1A62 1A63 1A65 1A6D 1A73 1A80 1AB0 1B04 1B34 1B35 1B36 1B3B 1B3C 1B3D",
  "1B42 1B43 1B6B 1B74 1B80 1B82 1BA2 1BA6 1BA8 1BAA 1BAB 1BAE 1BE6 1BE7 1BE8 1BEA 1BED 1BEE",
  "1BEF 1BF2 1C2C 1C34 1C36 1C3B 1CD0 1CD3 1CD4 1CE1 1CE2 1CE9 1CED 1CEE 1CF4 1CF5 1CF8 1CFA",
  "1DC0 1E01 20D0 2104 2CEF 2CF3 2D7F 2D80 2DE0 2E00 302A 302E 3099 309D A66F A673 A674 A67E",
  "A69E A6A0 A6F0 A6F2 A802 A803 A806 A807 A80B A80C A825 A827 A82C A830 A8C4 A8CE A8E0 A8F2",
  "A8FF A900 A926 A92E A947 A952 A980 A983 A9B3 A9B4 A9B6 A9BA A9BC A9BE A9E5 A9E6 AA29 AA2F",
  "AA31 AA33 AA35 AA40 AA43 AA44 AA4C AA4D AA7C AA7D AAB0 AAB1 AAB2 AAB5 AAB7 AAB9 AABE AAC0",
  "AAC1 AAC2 AAEC AAEE AAF6 AB01 ABE5 ABE6 ABE8 ABE9 ABED ABF0 FB1E FBB2 FE20 FE45 101FD 10280",
  "102E0 102E1 10376 10380 10A01 10A10 10A38 10A40 10AE5 10AEB 10D24 10D30 10D69 10D6E 10EAB",
  "10EAD 10EFA 10F00 10F46 10F51 10F82 10F86 11001 11002 11038 11047 11070 11071 11073 11075",
  "1107F 11082 110B3 110B7 110B9 110BB 110C2 110D0 11100 11103 11127 1112C 1112D 11136 11173",
  "11174 11180 11182 111B6 111BF 111C9 111CD 111CF 111D0 1122F 11232 11234 11235 11236 11238",
  "1123E 1123F 11241 11280 112DF 112E0 112E3 112F0 11300 11302 1133B 1133D 11340 11341 11366",
  "11380 113BB 113C2 113CE 113CF 113D0 113D1 113D2 113D3 113E1 11400 11438 11440 11442 11445",
  "11446 11447 1145E 1145F 114B3 114B9 114BA 114BB 114BF 114C1 114C2 114C4 115B2 115B8 115BC",
  "115BE 115BF 115C1 115DC 11600 11633 1163B 1163D 1163E 1163F 11641 116AB 116AC 116AD 116AE",
  "116B0 116B6 116B7 116B8 1171D 1171E 1171F 11720 11722 11726 11727 11730 1182F 11838 11839",
  "1183B 1193B 1193D 1193E 1193F 11943 11944 119D4 119DC 119E0 119E1 11A01 11A0B 11A33 11A39",
  "11A3B 11A3F 11A47 11A50 11A51 11A57 11A59 11A5C 11A8A 11A97 11A98 11A9A 11B60 11B61 11B62",
  "11B65 11B66 11B67 11C30 11C3E 11C3F 11C40 11C92 11CA9 11CAA 11CB1 11CB2 11CB4 11CB5 11D00",
  "11D31 11D46 11D47 11D50 11D90 11D93 11D95 11D96 11D97 11D98 11EF3 11EF5 11F00 11F02 11F36",
  "11F3E 11F40 11F41 11F42 11F43 11F5A 11FB0 13440 13441 13447 13460 1611E 1612A 1612D 16130",
  "16AF0 16AF5 16B30 16B37 16F4F 16F50 16F8F 16F93 16FE4 16FF0 1BC9D 1BC9F 1CF00 1CF50 1D167",
  "1D16A 1D17B 1D183 1D185 1D18C 1D1AA 1D1AE 1D242 1D245 1DA00 1DA37 1DA3B 1DA6D 1DA75 1DA76",
  "1DA84 1DA85 1DA9B 1DF00 1E000 1E100 1E130 1E137 1E2AE 1E2C0 1E2EC 1E2F0 1E4EC 1E4F0 1E5EE",
  "1E5F0 1E6E3 1E6E4 1E6E6 1E6E7 1E6EE 1E6F0 1E6F5 1E6FE 1E8D0 1E922 1E944 1E950"]

end Assay.Domain
